/-!
The command line. The last command named wins, and so does the last base URL; the word after
`--base-url` is always its value.
-/
namespace ProfileClient

inductive Command where
  | interactive
  | whoami
  | help
deriving DecidableEq, Repr

structure Arguments where
  command : Command
  baseUrl : Option String
deriving DecidableEq, Repr

inductive ArgumentError where
  | missingUrl
  | unknown (word : String)
deriving DecidableEq, Repr

def usage : String :=
"Usage: authref [--base-url <url>] [--whoami | --help]

  (no command)       Start the terminal UI
  --whoami           Prompt for credentials, log in and print your profile
  --base-url <url>   Backend to talk to (overrides config and AUTHREF_BASE_URL)
  --help             Show this message"

def ArgumentError.message : ArgumentError → String
  | .missingUrl => "--base-url needs a value"
  | .unknown word => s!"Unknown argument: {word}\n\n{usage}"

namespace Arguments

/-- Reads the words after those that gave `arguments`. -/
def readFrom (arguments : Arguments) : List String → Except ArgumentError Arguments
  | [] => .ok arguments
  | word :: words =>
    if word = "--whoami" then readFrom { arguments with command := .whoami } words
    else if word = "--help" ∨ word = "-h" then
      readFrom { arguments with command := .help } words
    else if word = "--base-url" then
      match words with
      | [] => .error .missingUrl
      | url :: words => readFrom { arguments with baseUrl := some url } words
    else .error (.unknown word)

def read (words : List String) : Except ArgumentError Arguments :=
  readFrom ⟨.interactive, none⟩ words

end Arguments
end ProfileClient
