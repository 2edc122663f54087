import ProfileClient.Dialog.Basic
import ProfileClient.Frame.Style
import ProfileClient.Text.Clipped
/-!
What a frame says, before it is drawn: the styled texts of the title, the form, the status bar and
the visible part of the profile.
-/
namespace ProfileClient.Frame

structure Span where
  text : List Char
  style : Style
deriving DecidableEq, Repr

abbrev Line := List Span

def span (style : Style) (text : String) : Span := ⟨text.toList, style⟩

def blanks (count : Nat) : Span := ⟨List.replicate count ' ', .plain⟩

def titleText : String := "  Auth Reference App"

def titleLine (dialog : Dialog) (width : Nat) : Line :=
  let backend := dialog.client.baseUrl ++ " "
  [span .title titleText, blanks (width - (titleText.utf8ByteSize + backend.utf8ByteSize)),
    span .muted backend]

def fieldWidth : Nat := 32

/-- The end of the value, filled up to the width of a field. -/
def fieldText (value : List Char) : List Char :=
  let shown := value.drop (value.length - fieldWidth)
  shown ++ List.replicate (fieldWidth - shown.length) ' '

def fieldLine (label value : String) (focused : Bool) : Line :=
  let style := if focused then Style.selected else Style.field
  let cursor := if focused then '▌' else ' '
  [blanks 2, span .muted label, span .muted "[", ⟨fieldText value.toList ++ [cursor], style⟩,
    span .muted "]"]

def button (label : String) (focused enabled : Bool) : Line :=
  let style :=
    if !enabled then Style.muted else if focused then Style.selected else Style.field
  let text := if focused then s!" ▶ {label} ◀ " else s!"   {label}   "
  [span .plain "[", span style text, span .plain "]"]

def formLines (view : Session.View) (focus : Focus) : List Line :=
  let hint := if view.canFetch then [] else [span .muted "  (log in first)"]
  [fieldLine "Email:    " view.email (focus = .email),
    fieldLine "Password: " view.maskedPassword (focus = .password),
    [],
    blanks 2 :: button "Login" (focus = .loginButton) true ++
      blanks 2 :: button "Get Profile" (focus = .profileButton) view.canFetch ++ hint]

/-- The part of the profile that a pane shows. -/
structure Window where
  /-- The rows in the pane, from the top. -/
  rows : List (List Char)
  /-- How many rows lie above the pane. -/
  above : Nat
  /-- How many rows lie below the pane. -/
  below : Nat
deriving DecidableEq, Repr

/-- The rows from the scroll on, or from the last one that fills the pane. -/
def Window.of (dialog : Dialog) (pane : Size) : Window :=
  let rows := dialog.rows pane.width
  let greatest := rows.length - pane.height
  let scroll := min dialog.scroll greatest
  ⟨(rows.drop scroll).take pane.height, scroll, greatest - scroll⟩

/-- The mark at the lower border of what lies outside the pane. -/
def Window.marker (window : Window) : Line :=
  if 0 < window.above || 0 < window.below then
    blanks 1 ::
      ((if 0 < window.above then [span .key "▲ more [PgUp] "] else []) ++
        if 0 < window.below then [span .key "▼ more [PgDn] "] else [])
  else []

def plainLine (row : List Char) : Line := [⟨row, .plain⟩]

def Window.lines (window : Window) : List Line := window.rows.map plainLine

/-- The placeholder is muted, also where a profile reads like it. -/
def profileStyle (view : Session.View) : Style :=
  if view.profileText = noProfileText then .muted else .field

def shortcuts : String := " [Tab] next | [Enter] select | [PgUp/PgDn] scroll | [Esc] quit "

/-- A notice whose text begins like that of an error shows as one; any other shows as done once no
call is under way. -/
def noticeStyle (notice : Notice) (inFlight : Nat) : Style :=
  if "Error".toList.isPrefixOf notice.text.toList then .error
  else if inFlight = 0 then .success
  else .muted

def statusSpan (notice : Option Notice) (inFlight : Nat) : Span :=
  match notice with
  | none => span .muted " Not logged in "
  | some notice => span (noticeStyle notice inFlight) s!" {notice.text} "

def statusLine (notice : Option Notice) (inFlight width : Nat) : Line :=
  let left := statusSpan notice inFlight
  [left, blanks (width - left.text.length - shortcuts.utf8ByteSize), span .key shortcuts]

end ProfileClient.Frame
