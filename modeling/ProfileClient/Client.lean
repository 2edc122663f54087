import ProfileClient.Exchange
import ProfileClient.Json.Printer
import ProfileClient.Text.Clipped
import ProfileClient.Url.Reader
/-!
The client of the backend. It knows two calls, the login with email and password and the fetch of
the profile with an access token, and turns each into one request. A call succeeds when the request
could be sent and is answered by a 2xx status and a whole body of one JSON value; every other case
is one failure of the call, whose cause is only logged.
-/
namespace ProfileClient

structure Client.Options where
  orgId : Option String
  timeoutSecs : Option Nat
deriving DecidableEq, Repr

structure Client where
  baseUrl : String
  options : Client.Options
deriving DecidableEq, Repr

inductive Call where
  | login (email password : String)
  | profile (token : String)
deriving DecidableEq, Repr

/-- The failure of a call, as its caller sees it. -/
inductive CallError where
  | loginFailed
  | fetchFailed
deriving DecidableEq, Repr

/-- Why a call failed, as it is logged. -/
inductive Failure where
  | notSent (address : String)
  | badStatus (status : Nat) (body : List Char)
  | unreadable (address : String)
deriving DecidableEq, Repr

inductive Event where
  | starting (baseUrl : String)
  | sendingLogin (address : String)
  | sendingProfile (address : String)
  | loginSucceeded
  | profileFetched
  | loginFailed (cause : Failure)
  | fetchFailed (cause : Failure)
  | loginApplied (hasToken : Bool)
  | loggedIn
  | requestFailed (error : String)
deriving DecidableEq, Repr

/-- The base URL without the slashes at its end. -/
def withoutSlashes (url : String) : String :=
  String.ofList (url.toList.reverse.dropWhile (· == '/')).reverse

/-- A client of the backend at a base URL. -/
def Client.at (baseUrl : String) (options : Client.Options) : Client :=
  ⟨withoutSlashes baseUrl, options⟩

namespace Call

def path : Call → String
  | .login .. => "/api/v1/login"
  | .profile _ => "/api/v1/me"

def error : Call → CallError
  | .login .. => .loginFailed
  | .profile _ => .fetchFailed

end Call

def CallError.message : CallError → String
  | .loginFailed => "login failed"
  | .fetchFailed => "fetch profile failed"

def quotedOctets : Nat := 500

def Failure.message : Failure → String
  | .notSent address => s!"Failed to send request to {address}"
  | .badStatus status body =>
    let quoted := String.ofList (Text.clipped quotedOctets body)
    s!"Status {statusText status}: {quoted}"
  | .unreadable address => s!"Failed to parse JSON response from {address}"

/-- A character that a header value may hold. -/
def allowedInHeader (c : Char) : Bool := c == '\t' || (0x20 ≤ c.toNat && c.toNat != 0x7F)

namespace Client

def address (client : Client) (call : Call) : String := client.baseUrl ++ call.path

/-- The body of a login: the organisation is a member only if there is one. -/
def loginBody (client : Client) (email password : String) : Json :=
  .object <|
    [("email", .string email), ("password", .string password)] ++
      match client.options.orgId with
      | none => []
      | some orgId => [("org_id", .string orgId)]

/-- The request of a call; `none` if the address is no URL or the token cannot stand in a header.
A backend that refuses the scheme of the URL is out of reach. -/
def request? [Url.Domains] (client : Client) (call : Call) : Option Request :=
  match Url.read? (client.address call).toList with
  | none => none
  | some url =>
    match call with
    | .login email password =>
      some ⟨.post, url.render, Url.credentials? url.account, none, some "application/json",
        (client.loginBody email password).compact⟩
    | .profile token =>
      if token.toList.all allowedInHeader then
        some ⟨.get, url.render, Url.credentials? url.account, some ("Bearer " ++ token), none, ""⟩
      else none

/-- The result of a call whose request has the given delivery. -/
def result [Url.Domains] (client : Client) (call : Call) (delivery : Delivery) :
    Except Failure Json :=
  match client.request? call, delivery with
  | some _, .answered response =>
    if response.isSuccess then
      match response.json? with
      | some json => .ok json
      | none => .error (.unreadable (client.address call))
    else .error (.badStatus response.status response.text)
  | _, _ => .error (.notSent (client.address call))

/-- Logged before a request is sent. -/
def opening (client : Client) (call : Call) : Event :=
  match call with
  | .login .. => .sendingLogin (client.address call)
  | .profile _ => .sendingProfile (client.address call)

/-- Logged once the result of a call is there. -/
def closing (call : Call) (result : Except Failure Json) : Event :=
  match call, result with
  | .login .., .ok _ => .loginSucceeded
  | .login .., .error cause => .loginFailed cause
  | .profile _, .ok _ => .profileFetched
  | .profile _, .error cause => .fetchFailed cause

end Client

def accessToken? (response : Json) : Option String :=
  (response.member? "access_token").bind Json.string?

inductive Level where
  | debug
  | info
  | warn
  | error
deriving DecidableEq, Repr

inductive FieldValue where
  | text (value : String)
  | flag (value : Bool)
deriving DecidableEq, Repr

namespace Event

def level : Event → Level
  | .starting _ | .sendingLogin _ | .sendingProfile _ | .loginApplied _ => .debug
  | .loginSucceeded | .profileFetched | .loggedIn => .info
  | .loginFailed _ | .fetchFailed _ => .warn
  | .requestFailed _ => .error

def message : Event → String
  | .starting _ => "App::new() starting"
  | .sendingLogin _ => "Sending login request"
  | .sendingProfile _ => "Sending profile request"
  | .loginSucceeded => "Login succeeded"
  | .profileFetched => "Profile fetched"
  | .loginFailed _ => "Login failed"
  | .fetchFailed _ => "Profile fetch failed"
  | .loginApplied _ => "Login response applied"
  | .loggedIn => "Logged in"
  | .requestFailed _ => "Request failed"

def fields : Event → List (String × FieldValue)
  | .starting baseUrl => [("base_url", .text baseUrl)]
  | .sendingLogin address | .sendingProfile address => [("url", .text address)]
  | .loginFailed cause | .fetchFailed cause => [("error", .text cause.message)]
  | .loginApplied hasToken => [("has_token", .flag hasToken)]
  | .requestFailed error => [("error", .text error)]
  | .loginSucceeded | .profileFetched | .loggedIn => []

end Event
end ProfileClient
