import Mathlib.Data.List.Forall2
import ProfileClient.Proofs.Bearer
import ProfileClient.Proofs.Session.Effects
/-!
Runs of a session with different tokens. Sessions that differ at most in tokens which can be sent
show the same, and whatever is done to both, they log and return the same and differ again at most
so.
-/
namespace ProfileClient.Session

def withToken (token : String) (session : Session) : Session := { session with token }

section WithToken
variable {session : Session} {token : String} (tokens : TokensAlike session.token token)
include tokens

theorem withToken_canFetch : (session.withToken token).canFetch = session.canFetch :=
  congrArg not tokens.isEmpty_eq

theorem withToken_view : (session.withToken token).view = session.view := by
  simp only [view, withToken_canFetch tokens]
  rfl

end WithToken

/-- Sessions that differ at most in their tokens, which are alike. -/
inductive AlikeButToken (session : Session) : Session → Prop
  | intro {token : String} (tokens : TokensAlike session.token token) :
    AlikeButToken session (session.withToken token)

theorem AlikeButToken.refl (session : Session) : session.AlikeButToken session :=
  .intro (.refl session.token)

theorem AlikeButToken.canFetch_eq {first second : Session} (sessions : first.AlikeButToken second) :
    first.canFetch = second.canFetch := by
  cases sessions with
  | intro tokens => exact (withToken_canFetch tokens).symm

theorem AlikeButToken.view_eq {first second : Session} (sessions : first.AlikeButToken second) :
    first.view = second.view := by
  cases sessions with
  | intro tokens => exact (withToken_view tokens).symm

theorem AlikeButToken.applyLogin {first second : Session} (sessions : first.AlikeButToken second)
    {response other : Json} (responses : response.AlikeButToken other) :
    (first.applyLogin response).AlikeButToken (second.applyLogin other) := by
  cases sessions with
  | intro _ => exact .intro responses.tokens

theorem AlikeButToken.applyProfile {first second : Session} (sessions : first.AlikeButToken second)
    (profile : Json) :
    (first.applyProfile profile).AlikeButToken (second.applyProfile profile) := by
  cases sessions with
  | intro tokens => exact .intro tokens

inductive Operation where
  | fill (email password : String)
  | login (delivery : Delivery)
  | fetch (delivery : Delivery)
  /-- The response of a login made elsewhere. -/
  | takeLogin (response : Json)
  /-- The profile of a fetch made elsewhere. -/
  | takeProfile (profile : Json)
deriving Repr

def operate [Url.Domains] (client : Client) (operation : Operation) (session : Session) : Step :=
  match operation with
  | .fill email password => ⟨{ session with email, password }, .ok (), none, []⟩
  | .login delivery => session.login client delivery
  | .fetch delivery => session.fetchProfile client delivery
  | .takeLogin response =>
    let session := session.applyLogin response
    ⟨session, .ok (), none, [.loginApplied session.canFetch]⟩
  | .takeProfile profile => ⟨session.applyProfile profile, .ok (), none, []⟩

/-- The steps of operations, each on the session that the one before left. -/
def operateAll [Url.Domains] (client : Client) : List Operation → Session → List Step
  | [], _ => []
  | operation :: operations, session =>
    let step := session.operate client operation
    step :: operateAll client operations step.session

/-- The same operations but for the tokens that logins hand out. -/
inductive Operation.AlikeButToken : Operation → Operation → Prop
  | fill (email password : String) : AlikeButToken (.fill email password) (.fill email password)
  | login {first second : Delivery} (deliveries : first.AlikeButToken second) :
    AlikeButToken (.login first) (.login second)
  | fetch (delivery : Delivery) : AlikeButToken (.fetch delivery) (.fetch delivery)
  | takeLogin {first second : Json} (responses : first.AlikeButToken second) :
    AlikeButToken (.takeLogin first) (.takeLogin second)
  | takeProfile (profile : Json) : AlikeButToken (.takeProfile profile) (.takeProfile profile)

/-- Steps that return and log the same, send the same but for the authorization, and leave sessions
that differ at most in their tokens. -/
structure Step.AlikeButToken (first second : Step) : Prop where
  sessions : first.session.AlikeButToken second.session
  result_eq : first.result = second.result
  arrived_alike : Option.Rel Request.AlikeButToken first.arrived second.arrived
  events_eq : first.events = second.events

/-- Steps that show, return and log the same, and send the same but for the authorization. -/
structure Step.ShowsAlike (first second : Step) : Prop where
  view_eq : first.session.view = second.session.view
  result_eq : first.result = second.result
  arrived_alike : Option.Rel Request.AlikeButToken first.arrived second.arrived
  events_eq : first.events = second.events

theorem Step.AlikeButToken.showsAlike {first second : Step} (steps : first.AlikeButToken second) :
    first.ShowsAlike second :=
  ⟨steps.sessions.view_eq, steps.result_eq, steps.arrived_alike, steps.events_eq⟩

section Steps
variable [Url.Domains] {first second : Session} (sessions : first.AlikeButToken second)
  (client : Client)
include sessions

theorem AlikeButToken.login {delivery other : Delivery}
    (deliveries : delivery.AlikeButToken other) :
    (first.login client delivery).AlikeButToken (second.login client other) := by
  have arrived := deliveries.arrived_alike
    ((Call.AlikeButToken.login first.email first.password).request_alike client)
  have same := sessions
  cases same with
  | intro tokens =>
      rcases client.result_login_alike first.email first.password deliveries with
        ⟨cause, failed, failed'⟩ | ⟨response, handed, brought, brought', responses⟩
      · simp only [Session.login, withToken, failed, failed']
        exact ⟨sessions, rfl, arrived, rfl⟩
      · have next := sessions.applyLogin responses
        have held := next.canFetch_eq
        simp only [withToken] at held
        simp only [Session.login, withToken, brought, brought', held]
        exact ⟨next, rfl, arrived, rfl⟩

theorem AlikeButToken.fetchProfile (delivery : Delivery) :
    (first.fetchProfile client delivery).AlikeButToken (second.fetchProfile client delivery) := by
  have same := sessions
  cases same with
  | @intro token tokens =>
      have calls := Call.AlikeButToken.profile tokens
      have arrived := Delivery.AlikeButToken.arrived_alike
        (.inl rfl : delivery.AlikeButToken delivery) (calls.request_alike client)
      have result := calls.result_eq client delivery
      simp only [Session.fetchProfile, withToken_canFetch tokens]
      split
      · simp only [withToken, result, calls.opening_eq client, calls.closing_eq]
        cases client.result (.profile first.token) delivery with
        | error cause => exact ⟨sessions, rfl, arrived, rfl⟩
        | ok profile => exact ⟨sessions.applyProfile profile, rfl, arrived, rfl⟩
      · exact ⟨sessions, rfl, .none, rfl⟩

theorem AlikeButToken.operate {operation other : Operation}
    (operations : operation.AlikeButToken other) :
    (first.operate client operation).AlikeButToken (second.operate client other) := by
  cases operations with
  | fill email password =>
      cases sessions with
      | intro tokens => exact ⟨.intro tokens, rfl, .none, rfl⟩
  | login deliveries => exact sessions.login client deliveries
  | fetch delivery => exact sessions.fetchProfile client delivery
  | takeLogin responses =>
      have next := sessions.applyLogin responses
      exact ⟨next, rfl, .none, congrArg (fun held => [Event.loginApplied held]) next.canFetch_eq⟩
  | takeProfile profile => exact ⟨sessions.applyProfile profile, rfl, .none, rfl⟩

theorem AlikeButToken.operateAll {operations others : List Operation}
    (alike : List.Forall₂ Operation.AlikeButToken operations others) :
    List.Forall₂ Step.AlikeButToken (first.operateAll client operations)
      (second.operateAll client others) := by
  induction alike generalizing first second with
  | nil => exact .nil
  | cons operations _ ih =>
      have step := sessions.operate client operations
      exact .cons step (ih step.sessions)

end Steps

/-- What the request of an operation says in its header: a fetch names the token held. -/
def Operation.authorization? (session : Session) : Operation → Option String
  | .fetch _ => some ("Bearer " ++ session.token)
  | _ => none

theorem operate_authorization [Url.Domains] {client : Client} {operation : Operation}
    {session : Session} {request : Request}
    (sent : (session.operate client operation).arrived = some request) :
    request.authorization = operation.authorization? session := by
  cases operation with
  | login delivery =>
      have arrived : (session.login client delivery).arrived = some request := sent
      rw [(session.login_makes client delivery).arrived_eq] at arrived
      exact (Client.request?_login (delivery.eq_some_of_arrived? arrived)).2.1
  | fetch delivery =>
      have arrived : (session.fetchProfile client delivery).arrived = some request := sent
      by_cases held : session.canFetch = true
      · rw [(session.fetchProfile_makes client delivery held).arrived_eq] at arrived
        exact (Client.request?_profile (delivery.eq_some_of_arrived? arrived)).2.1
      · simp [fetchProfile, held] at arrived
  | _ => cases sent

end ProfileClient.Session
