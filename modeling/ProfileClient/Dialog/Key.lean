import ProfileClient.Dialog.Basic
import ProfileClient.Text.Blank
/-!
Keys. A key moves the focus, edits the field in focus, scrolls the profile, quits, or starts a call:
`call?` says which call a key starts, and `press` is the dialog after the key.
-/
namespace ProfileClient

inductive Key where
  | escape
  | down
  | up
  | tab
  | backTab
  | pageDown
  | pageUp
  | home
  | last
  | enter
  | backspace
  | char (c : Char)
  /-- Any key that the dialog has no use for. -/
  | other
deriving DecidableEq, Repr

def isTypable (c : Char) : Bool := !Text.isControl c

namespace Dialog

def page : Nat := 10

/-- Applies an edit to the field in focus; buttons hold no text. -/
def edit (change : String → String) (dialog : Dialog) : Dialog :=
  match dialog.focus with
  | .email =>
    { dialog with session := { dialog.session with email := change dialog.session.email } }
  | .password =>
    { dialog with session := { dialog.session with password := change dialog.session.password } }
  | .loginButton | .profileButton => dialog

def withoutLast (text : String) : String := String.ofList text.toList.dropLast

def call? (dialog : Dialog) (key : Key) : Option Call :=
  match key, dialog.focus with
  | .enter, .loginButton => some (.login dialog.session.email dialog.session.password)
  | .enter, .profileButton =>
    if dialog.session.canFetch then some (.profile dialog.session.token) else none
  | _, _ => none

def startLogin (dialog : Dialog) : Dialog :=
  { dialog with inFlight := dialog.inFlight + 1, notice := some .loggingIn }

def startFetch (dialog : Dialog) : Dialog :=
  if dialog.session.canFetch then
    { dialog with inFlight := dialog.inFlight + 1, notice := some .fetchingProfile }
  else { dialog with notice := some .notLoggedIn }

def enter (dialog : Dialog) : Dialog :=
  match dialog.focus with
  | .email => { dialog with focus := .password }
  | .password => { dialog with focus := .loginButton }
  | .loginButton => dialog.startLogin
  | .profileButton => dialog.startFetch

def press (key : Key) (dialog : Dialog) : Dialog :=
  match key with
  | .escape => { dialog with quitting := true }
  | .down | .tab => { dialog with focus := dialog.focus.next }
  | .up | .backTab => { dialog with focus := dialog.focus.previous }
  | .pageDown => dialog.scrollDown page
  | .pageUp => dialog.scrollUp page
  | .home => dialog.scrollToTop
  | .last => dialog.scrollToBottom
  | .enter => dialog.enter
  | .backspace => dialog.edit withoutLast
  | .char c => if isTypable c then dialog.edit (·.push c) else dialog
  | .other => dialog

end Dialog
end ProfileClient
