import ProfileClient.Session
import ProfileClient.Settings.Basic
import ProfileClient.Text.Lines
/-!
The dialog in a terminal: a login form with two fields and two buttons, a pane that shows the
profile, and a notice of what happened last. Calls run beside the dialog; it only counts those whose
results it waits for.
-/
namespace ProfileClient

inductive Focus where
  | email
  | password
  | loginButton
  | profileButton
deriving DecidableEq, Repr

namespace Focus

def next : Focus → Focus
  | .email => .password
  | .password => .loginButton
  | .loginButton => .profileButton
  | .profileButton => .email

def previous : Focus → Focus
  | .email => .profileButton
  | .password => .email
  | .loginButton => .password
  | .profileButton => .loginButton

end Focus

inductive Notice where
  | loggingIn
  | fetchingProfile
  | loggedIn
  | noToken
  | notLoggedIn
  | profileLoaded
  | failed (error : SessionError)
deriving DecidableEq, Repr

def Notice.text : Notice → String
  | .loggingIn => "Logging in..."
  | .fetchingProfile => "Fetching profile..."
  | .loggedIn => "Logged in"
  | .noToken => "Login response had no access token"
  | .notLoggedIn => SessionError.notLoggedIn.message
  | .profileLoaded => "Profile loaded"
  | .failed error => "Error: " ++ error.message

structure Size where
  width : Nat
  height : Nat
deriving DecidableEq, Repr

structure Dialog where
  client : Client
  session : Session
  quitting : Bool
  focus : Focus
  notice : Option Notice
  inFlight : Nat
  /-- The first row of the profile that the pane shows. -/
  scroll : Nat
  /-- The size of the pane, without its border. -/
  pane : Size
deriving Repr

namespace Dialog

/-- A dialog with the settings filled in. The focus starts on the first field that is empty, or on
the password. -/
def start (settings : Settings) : Dialog :=
  let session := Session.new (settings.email.getD "") (settings.password.getD "")
  { client := .at settings.baseUrl settings.clientOptions
    session
    quitting := false
    focus := if session.email.isEmpty then .email else .password
    notice := none
    inFlight := 0
    scroll := 0
    pane := ⟨0, 0⟩ }

def rows (dialog : Dialog) (width : Nat) : List (List Char) :=
  Text.wrap width dialog.session.profileText.toList

/-- Rows are numbered up to this one. -/
def lastRow : Nat := 65535

/-- The scroll that shows the last row at the bottom of the pane. -/
def maxScroll (dialog : Dialog) : Nat :=
  min ((dialog.rows dialog.pane.width).length - dialog.pane.height) lastRow

theorem maxScroll_le_lastRow (dialog : Dialog) : dialog.maxScroll ≤ lastRow := Nat.min_le_right ..

def resize (pane : Size) (dialog : Dialog) : Dialog :=
  let dialog := { dialog with pane }
  { dialog with scroll := min dialog.scroll dialog.maxScroll }

/-- The sum stays at `lastRow` where it would exceed it. -/
def scrollDown (count : Nat) (dialog : Dialog) : Dialog :=
  { dialog with scroll := min (min (dialog.scroll + count) lastRow) dialog.maxScroll }

/-- No scroll is greater than `lastRow`, so it does not show that the sum stays there. -/
theorem scrollDown_scroll (count : Nat) (dialog : Dialog) :
    (dialog.scrollDown count).scroll = min (dialog.scroll + count) dialog.maxScroll := by
  change min (min (dialog.scroll + count) lastRow) dialog.maxScroll = _
  rw [Nat.min_assoc, Nat.min_eq_right dialog.maxScroll_le_lastRow]

def scrollUp (count : Nat) (dialog : Dialog) : Dialog :=
  { dialog with scroll := dialog.scroll - count }

def scrollToTop (dialog : Dialog) : Dialog := { dialog with scroll := 0 }

def scrollToBottom (dialog : Dialog) : Dialog := { dialog with scroll := dialog.maxScroll }

end Dialog
end ProfileClient
