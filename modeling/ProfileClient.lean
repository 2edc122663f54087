import ProfileClient.Text.Utf8
import ProfileClient.Text.Blank
import ProfileClient.Text.Lines
import ProfileClient.Text.Clipped
import ProfileClient.Decimal.Shortest
import ProfileClient.Json.Reader
import ProfileClient.Json.Printer
import ProfileClient.Url.Reader
import ProfileClient.Session
import ProfileClient.Settings.Reader
import ProfileClient.Settings.Location
import ProfileClient.Arguments
import ProfileClient.Settings.Variables
import ProfileClient.Text.Cluster
import ProfileClient.Dialog.Run
import ProfileClient.Frame.Draw
import ProfileClient.Program
import ProfileClient.Main
import ProfileClient.Proofs.Dialog.Effects
import ProfileClient.Proofs.Dialog.Accounting
import ProfileClient.Proofs.Dialog.Provenance
import ProfileClient.Proofs.Dialog.Masking
import ProfileClient.Proofs.Dialog.Secrecy
import ProfileClient.Proofs.Session.Freshness
import ProfileClient.Proofs.Json.Lexeme
import ProfileClient.Proofs.Json.Numeral
import ProfileClient.Proofs.Json.RoundTrip
import ProfileClient.Proofs.Text.Lines
import ProfileClient.Proofs.Answer
import ProfileClient.Proofs.Session.Atomicity
import ProfileClient.Proofs.Dialog.Inline
import ProfileClient.Proofs.LoginBody
import ProfileClient.Proofs.ProfileText
import ProfileClient.Proofs.Dialog.Notice
import ProfileClient.Proofs.Text.Rows
import ProfileClient.Proofs.Dialog.Scrolling
import ProfileClient.Proofs.Dialog.Loading
import ProfileClient.Proofs.Dialog.Paging
import ProfileClient.Proofs.Text.Wrapping
import ProfileClient.Proofs.Dialog.Resizing
import ProfileClient.Proofs.Text.Columns
import ProfileClient.Proofs.Frame.Window
import ProfileClient.Proofs.Frame.Clipping
import ProfileClient.Proofs.Precedence
import ProfileClient.Proofs.Whoami
import ProfileClient.Proofs.Dialog.Draining
import ProfileClient.Proofs.Bearer
import ProfileClient.Proofs.Session.Bearer
import ProfileClient.Proofs.Dialog.Bearer
import ProfileClient.Proofs.Settings.Written
import ProfileClient.Proofs.BaseUrl
import ProfileClient.Proofs.Events
import ProfileClient.Proofs.Dialog.Typing
import ProfileClient.Proofs.Frame.Status
