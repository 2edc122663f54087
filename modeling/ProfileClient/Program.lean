import ProfileClient.Arguments
import ProfileClient.Settings.Reader
import ProfileClient.Settings.Variables
import ProfileClient.Whoami
/-!
A start of the program, from its surroundings to its exit. Without a terminal the dialog cannot
start, and a password that is not set cannot be asked for.
-/
namespace ProfileClient.Program

inductive Error where
  | arguments (error : ArgumentError)
  | whoami (error : Whoami.Error)
  | noTerminal
deriving DecidableEq, Repr

namespace Error

def noTerminalText : String := "No such device or address (os error 6)"

def message : Error → String
  | .arguments error => error.message
  | .whoami .emailUnreadable => "Failed to read email"
  | .whoami .passwordUnreadable => "Failed to read password"
  | .whoami (.session error) => error.message
  | .noTerminal => noTerminalText

/-- What is behind an error, where a second text says so. -/
def cause? : Error → Option String
  | .whoami .emailUnreadable => some "stream did not contain valid UTF-8"
  | .whoami .passwordUnreadable => some noTerminalText
  | _ => none

/-- The report of an error on the error output. -/
def report (error : Error) : String :=
  match error.cause? with
  | none => s!"Error: {error.message}\n"
  | some cause => s!"Error: {error.message}\n\nCaused by:\n    {cause}\n"

end Error

/-- What the program leaves behind. -/
structure Ending where
  failed : Bool
  output : String
  /-- Of an error. The log lines that go to the same stream are no part of it. -/
  report : String
  /-- The requests that reached the backend. -/
  arrived : List Request
deriving DecidableEq, Repr

namespace Ending

def success (output : String) (arrived : List Request) : Ending := ⟨false, output, "", arrived⟩

def failure (error : Error) (arrived : List Request) : Ending := ⟨true, "", error.report, arrived⟩

/-- The ending with a text put out before. -/
def after (text : String) (ending : Ending) : Ending :=
  { ending with output := text ++ ending.output }

end Ending

/-- The settings of a start. A settings file that cannot be used counts as none, and the base URL of
the command line wins over all others. -/
def settings (arguments : Arguments) (environment : Environment) (file : Option (List UInt8)) :
    Settings :=
  let settings :=
    match Settings.load file environment with
    | .ok settings => settings
    | .error _ => Settings.initial.override environment
  { settings with baseUrl := arguments.baseUrl.getD settings.baseUrl }

/-- What the program finds when it starts. -/
structure Surroundings where
  words : List String
  environment : Environment
  /-- The text of the file of variables in the working directory. -/
  assignments : Option (List Char)
  /-- The content of the settings file. -/
  settings : Option (List UInt8)

/-- The environment with the variables of the file put in. -/
def Surroundings.knownVariables (surroundings : Surroundings) : Environment :=
  match surroundings.assignments with
  | none => surroundings.environment
  | some text => Settings.Variables.add text surroundings.environment

/-- What a start comes to before any input is read. -/
inductive Opening where
  | ended (ending : Ending)
  /-- The dialog takes over. -/
  | interactive (settings : Settings)
  /-- The whoami command goes on with the answer to its prompt. -/
  | whoami (settings : Settings)
deriving DecidableEq, Repr

def opening (surroundings : Surroundings) : Opening :=
  match Arguments.read surroundings.words with
  | .error error => .ended (.failure (.arguments error) [])
  | .ok arguments =>
    let settings := settings arguments surroundings.knownVariables surroundings.settings
    match arguments.command with
    | .help => .ended (.success s!"{usage}\n" [])
    | .interactive => .interactive settings
    | .whoami => .whoami settings

/-- The ending of the dialog where there is no terminal for it. -/
def interactiveEnding : Ending := .failure .noTerminal []

def whoamiEnding (report : Whoami.Report) : Ending :=
  match report.result with
  | .ok profile => .success s!"{profile}\n" report.arrived
  | .error error => .failure (.whoami error) report.arrived

/-- The whole run: the input that follows, and the deliveries of the first and the second
request. -/
def run [Url.Domains] (surroundings : Surroundings) (input : List UInt8)
    (first second : Delivery) : Ending :=
  match opening surroundings with
  | .ended ending => ending
  | .interactive _ => interactiveEnding
  | .whoami settings =>
    (whoamiEnding (Whoami.run settings input first second)).after (Whoami.prompt settings)

end ProfileClient.Program
