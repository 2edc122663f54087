import ProfileClient.Client
/-!
A login session: what the user typed, the access token of the last login, and the last profile
fetched. A session changes only by the answers of the backend and by typing; a failed call leaves
it as it was.
-/
namespace ProfileClient

structure Session where
  email : String
  password : String
  /-- Empty before the first login. -/
  token : String
  profile : Option Json
deriving Repr

inductive SessionError where
  /-- A profile was asked for without a token. -/
  | notLoggedIn
  | call (error : CallError)
deriving DecidableEq, Repr

def SessionError.message : SessionError → String
  | .notLoggedIn => "not logged in - log in before fetching the profile"
  | .call error => error.message

/-- What stands in place of a profile that was never fetched. -/
def noProfileText : String := "No profile loaded"

namespace Session

def new (email password : String) : Session := ⟨email, password, "", none⟩

def canFetch (session : Session) : Bool := !session.token.isEmpty

/-- Takes the token of a login; an answer without one leaves the session without a token. -/
def applyLogin (response : Json) (session : Session) : Session :=
  { session with token := (accessToken? response).getD "" }

def applyProfile (profile : Json) (session : Session) : Session :=
  { session with profile := some profile }

/-- What a call on a session does. -/
structure Step where
  session : Session
  result : Except SessionError Unit
  /-- The request as it reached the backend. -/
  arrived : Option Request
  events : List Event

def login [Url.Domains] (client : Client) (delivery : Delivery) (session : Session) : Step :=
  let call := Call.login session.email session.password
  let result := client.result call delivery
  let arrived := delivery.arrived? (client.request? call)
  let events := [client.opening call, Client.closing call result]
  match result with
  | .ok response =>
    let session := session.applyLogin response
    ⟨session, .ok (), arrived, events ++ [.loginApplied session.canFetch]⟩
  | .error _ => ⟨session, .error (.call call.error), arrived, events⟩

/-- Fetches the profile with the token held; without a token nothing is sent. -/
def fetchProfile [Url.Domains] (client : Client) (delivery : Delivery) (session : Session) : Step :=
  if session.canFetch then
    let call := Call.profile session.token
    let result := client.result call delivery
    let arrived := delivery.arrived? (client.request? call)
    let events := [client.opening call, Client.closing call result]
    match result with
    | .ok profile => ⟨session.applyProfile profile, .ok (), arrived, events⟩
    | .error _ => ⟨session, .error (.call call.error), arrived, events⟩
  else ⟨session, .error .notLoggedIn, none, []⟩

/-- What a front end shows of a session. -/
structure View where
  email : String
  /-- One asterisk for each character. -/
  maskedPassword : String
  canFetch : Bool
  profileText : String
deriving DecidableEq, Repr

/-- The profile over several lines, or the placeholder. -/
def profileText (session : Session) : String :=
  match session.profile with
  | some profile => profile.pretty
  | none => noProfileText

def view (session : Session) : View where
  email := session.email
  maskedPassword := String.ofList (List.replicate session.password.length '*')
  canFetch := session.canFetch
  profileText := session.profileText

end Session
end ProfileClient
