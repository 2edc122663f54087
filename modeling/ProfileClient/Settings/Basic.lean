import ProfileClient.Client
/-!
The settings of the program: the backend and what the login form is filled in with. They come from
a file and from the environment, which wins. The password has no place in the file.
-/
namespace ProfileClient

structure Settings where
  baseUrl : String
  email : Option String
  orgId : Option String
  timeoutSecs : Option Nat
  password : Option String
deriving DecidableEq, Repr

abbrev Environment := String → Option String

namespace Settings

def defaultBaseUrl : String := "http://localhost:8000"

def initial : Settings := ⟨defaultBaseUrl, none, none, none, none⟩

/-- The value of a variable that is set to some text. -/
def nonEmpty (environment : Environment) (name : String) : Option String :=
  (environment name).filter (!·.isEmpty)

/-- Variables that are set and not empty override the settings. -/
def override (environment : Environment) (settings : Settings) : Settings where
  baseUrl := (nonEmpty environment "AUTHREF_BASE_URL").getD settings.baseUrl
  email := (nonEmpty environment "AUTHREF_EMAIL").or settings.email
  orgId := (nonEmpty environment "AUTHREF_ORG_ID").or settings.orgId
  timeoutSecs := settings.timeoutSecs
  password := (nonEmpty environment "AUTHREF_PASSWORD").or settings.password

def clientOptions (settings : Settings) : Client.Options := ⟨settings.orgId, settings.timeoutSecs⟩

def optionalText : Option String → Json
  | none => .null
  | some text => .string text

/-- The settings as a value, without the password. -/
def toJson (settings : Settings) : Json :=
  .object [
    ("base_url", .string settings.baseUrl),
    ("email", optionalText settings.email),
    ("org_id", optionalText settings.orgId),
    ("request_timeout_secs",
      match settings.timeoutSecs with
      | none => .null
      | some secs => .number (.whole secs))]

end Settings
end ProfileClient
