import ProfileClient.Session
import ProfileClient.Settings.Basic
import ProfileClient.Text.Blank
/-!
The command that logs in, fetches the profile and prints it. The email is asked for, the password
comes with the settings.
-/
namespace ProfileClient.Whoami

def prompt (settings : Settings) : String :=
  match settings.email with
  | some email => s!"Email [{email}]: "
  | none => "Email: "

/-- The email that a line stands for; a blank line stands for the one of the settings. -/
def emailOf (default? : Option String) (line : List Char) : String :=
  let typed := Text.trim line
  if typed.isEmpty then default?.getD "" else String.ofList typed

def firstLine (input : List UInt8) : List UInt8 :=
  input.takeWhile (· ≠ 0x0A) ++ (input.dropWhile (· ≠ 0x0A)).take 1

inductive Error where
  /-- The line is not UTF-8. -/
  | emailUnreadable
  /-- The settings hold no password and there is no terminal to ask for it. -/
  | passwordUnreadable
  | session (error : SessionError)
deriving DecidableEq, Repr

/-- What the command came to, and the requests that arrived. -/
structure Report where
  result : Except Error String
  arrived : List Request
deriving Repr

/-- Logs in with an email and a password and fetches the profile. The two requests meet the
deliveries given. -/
def fetchProfile [Url.Domains] (client : Client) (email password : String)
    (first second : Delivery) : Report :=
  let login := (Session.new email password).login client first
  match login.result with
  | .error error => ⟨.error (.session error), login.arrived.toList⟩
  | .ok () =>
    let fetched := login.session.fetchProfile client second
    { result := match fetched.result with
        | .error error => .error (.session error)
        | .ok () => .ok fetched.session.profileText
      arrived := login.arrived.toList ++ fetched.arrived.toList }

/-- The command with the input that answers the prompt. -/
def run [Url.Domains] (settings : Settings) (input : List UInt8) (first second : Delivery) :
    Report :=
  match Text.Utf8.decode? (firstLine input), settings.password with
  | none, _ => ⟨.error .emailUnreadable, []⟩
  | some _, none => ⟨.error .passwordUnreadable, []⟩
  | some line, some password =>
    let client := Client.at settings.baseUrl settings.clientOptions
    fetchProfile client (emailOf settings.email line) password first second

end ProfileClient.Whoami
