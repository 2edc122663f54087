import ProfileClient.Program
import ProfileClient.Settings.Location
/-!
The command line. Neither a terminal nor a transport is linked in: the dialog does not start, and
every request finds the backend out of reach.
-/
namespace ProfileClient

def variableNames : List String :=
  ["HOME", "XDG_CONFIG_HOME", "AUTHREF_BASE_URL", "AUTHREF_EMAIL", "AUTHREF_ORG_ID",
    "AUTHREF_PASSWORD"]

def namesIn (text : List Char) : List String :=
  (text.splitOnP fun c => !(Settings.Variables.isNameChar c || Text.isAlphanumeric c)).map
    String.ofList

/-- The environment as far as the names go. -/
def environmentOf (names : List String) : IO Environment := do
  let pairs ← names.mapM fun name => do return (name, ← IO.getEnv name)
  return fun name => (pairs.lookup name).join

def variablesFile : String := ".env"

def textOf (path : String) : IO (Option (List Char)) := do
  try
    return some (← IO.FS.readFile path).toList
  catch _ => return none

def octetsOf (path : Option String) : IO (Option (List UInt8)) := do
  try
    match path with
    | none => return none
    | some path => return some (← IO.FS.readBinFile path).toList
  catch _ => return none

def surroundings (words : List String) : IO Program.Surroundings := do
  let assignments ← textOf variablesFile
  let environment ← environmentOf (variableNames ++ namesIn (assignments.getD []))
  let found : Program.Surroundings := ⟨words, environment, assignments, none⟩
  return { found with settings := ← octetsOf (Settings.path? found.knownVariables) }

/-- The octets up to the end of the line or of the input. -/
partial def lineOf (stream : IO.FS.Stream) : IO (List UInt8) := do
  let octets := (← stream.read 1).toList
  if octets.isEmpty || octets.contains 0x0A then return octets
  return octets ++ (← lineOf stream)

/-- Shows an ending and gives the exit code. -/
def leave (ending : Program.Ending) : IO UInt32 := do
  IO.print ending.output
  IO.eprint ending.report
  return if ending.failed then 1 else 0

end ProfileClient

open ProfileClient in
def main (words : List String) : IO UInt32 := do
  let _ := Url.Domains.ascii
  match Program.opening (← surroundings words) with
  | .ended ending => leave ending
  | .interactive _ => leave Program.interactiveEnding
  | .whoami settings =>
    IO.print (Whoami.prompt settings)
    (← IO.getStdout).flush
    let line ← lineOf (← IO.getStdin)
    leave (Program.whoamiEnding (Whoami.run settings line .unreachable .unreachable))
