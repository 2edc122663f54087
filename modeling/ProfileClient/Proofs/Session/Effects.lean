import ProfileClient.Proofs.Client
import ProfileClient.Session
/-!
What the answers of the backend do to a session, and what a call on a session exchanges.
-/
namespace ProfileClient.Session

theorem canFetch_iff (session : Session) : session.canFetch = true ↔ session.token ≠ "" := by
  simp [canFetch]

theorem not_canFetch_iff (session : Session) : ¬ session.canFetch = true ↔ session.token = "" := by
  simp [canFetch]

@[simp]
theorem applyLogin_token (response : Json) (session : Session) :
    (session.applyLogin response).token = (accessToken? response).getD "" := rfl

@[simp]
theorem applyLogin_profile (response : Json) (session : Session) :
    (session.applyLogin response).profile = session.profile := rfl

@[simp]
theorem applyProfile_token (profile : Json) (session : Session) :
    (session.applyProfile profile).token = session.token := rfl

@[simp]
theorem applyProfile_profile (profile : Json) (session : Session) :
    (session.applyProfile profile).profile = some profile := rfl

/-- The exchange of a step whose request has the given delivery. -/
def Step.exchange? (step : Step) : Delivery → Option Exchange
  | .answered response => step.arrived.map fun request => ⟨request, response⟩
  | _ => none

/-- A step that makes a call: it ends as the call does, and if the call brought something, the
session takes it. -/
structure Step.Makes [Url.Domains] (step : Step) (client : Client) (call : Call)
    (delivery : Delivery) (session : Session) (take : Json → Session) : Prop where
  ok : ∀ body, client.result call delivery = .ok body →
    step.result = .ok () ∧ step.session = take body
  error : ∀ cause, client.result call delivery = .error cause →
    step.result = .error (.call call.error) ∧ step.session = session
  arrived_eq : step.arrived = delivery.arrived? (client.request? call)

section Calls
variable [Url.Domains] (client : Client) (delivery : Delivery) (session : Session)

theorem login_makes :
    (session.login client delivery).Makes client (.login session.email session.password) delivery
      session fun response => session.applyLogin response := by
  refine ⟨?_, ?_, ?_⟩
  · intro body result
    simp [login, result]
  · intro cause result
    simp [login, result]
  · simp only [login]
    split <;> rfl

theorem fetchProfile_makes (held : session.canFetch = true) :
    (session.fetchProfile client delivery).Makes client (.profile session.token) delivery
      session fun profile => session.applyProfile profile := by
  refine ⟨?_, ?_, ?_⟩
  · intro body result
    simp [fetchProfile, held, result]
  · intro cause result
    simp [fetchProfile, held, result]
  · simp only [fetchProfile, if_pos held]
    split <;> rfl

theorem login_exchange? :
    (session.login client delivery).exchange? delivery =
      client.exchange? (.login session.email session.password) delivery := by
  have arrived := (session.login_makes client delivery).arrived_eq
  cases delivery with
  | answered response => simp [Step.exchange?, Client.exchange?, arrived, Delivery.arrived?]
  | _ => rfl

theorem fetchProfile_exchange? :
    (session.fetchProfile client delivery).exchange? delivery =
      if session.canFetch then client.exchange? (.profile session.token) delivery else none := by
  have arrived : (session.fetchProfile client delivery).arrived =
      if session.canFetch then delivery.arrived? (client.request? (.profile session.token))
      else none := by
    simp only [fetchProfile]
    split
    · split <;> rfl
    · rfl
  cases delivery with
  | answered response =>
      simp only [Step.exchange?, Client.exchange?, arrived, Delivery.arrived?]
      split <;> rfl
  | _ => cases session.canFetch <;> rfl

theorem login_session :
    (session.login client delivery).session =
      match (client.result (.login session.email session.password) delivery).toOption with
      | some response => session.applyLogin response
      | none => session := by
  simp only [login]
  cases client.result (.login session.email session.password) delivery <;> rfl

theorem fetchProfile_session :
    (session.fetchProfile client delivery).session =
      if session.canFetch then
        match (client.result (.profile session.token) delivery).toOption with
        | some profile => session.applyProfile profile
        | none => session
      else session := by
  simp only [fetchProfile]
  split
  · cases client.result (.profile session.token) delivery <;> rfl
  · rfl

end Calls
end ProfileClient.Session
