import ProfileClient.Proofs.Client
/-!
What calls with different tokens have in common. A token shows only in one header of one request: of
two tokens that can be sent, neither the result of a call nor what is logged tells which one it was.
-/
namespace ProfileClient

/-- A token that can be sent: it is not empty, and its characters may stand in a header. -/
structure Sendable (token : String) : Prop where
  ne_empty : token ≠ ""
  fits : token.toList.all allowedInHeader = true

/-- The same token, or two that can be sent. -/
def TokensAlike (first second : String) : Prop := first = second ∨ Sendable first ∧ Sendable second

section Tokens
variable {first second : String}

theorem TokensAlike.refl (token : String) : TokensAlike token token := .inl rfl

theorem TokensAlike.isEmpty_eq (tokens : TokensAlike first second) :
    second.isEmpty = first.isEmpty := by
  rcases tokens with rfl | ⟨held, held'⟩
  · rfl
  · have empty : first.isEmpty = false := by simpa using held.ne_empty
    have empty' : second.isEmpty = false := by simpa using held'.ne_empty
    rw [empty, empty']

theorem TokensAlike.fits_eq (tokens : TokensAlike first second) :
    second.toList.all allowedInHeader = first.toList.all allowedInHeader := by
  rcases tokens with rfl | ⟨held, held'⟩
  · rfl
  · rw [held.fits, held'.fits]

end Tokens

/-- Requests that differ at most in their authorization. -/
structure Request.AlikeButToken (first second : Request) : Prop where
  method_eq : first.method = second.method
  url_eq : first.url = second.url
  credentials_eq : first.credentials = second.credentials
  contentType_eq : first.contentType = second.contentType
  body_eq : first.body = second.body

inductive Call.AlikeButToken : Call → Call → Prop
  | login (email password : String) : AlikeButToken (.login email password) (.login email password)
  | profile {first second : String} (tokens : TokensAlike first second) :
    AlikeButToken (.profile first) (.profile second)

namespace Call.AlikeButToken
variable {first second : Call} (calls : first.AlikeButToken second) (client : Client)
include calls

theorem address_eq : client.address second = client.address first := by
  cases calls <;> rfl

theorem opening_eq : client.opening second = client.opening first := by
  cases calls <;> rfl

theorem closing_eq (result : Except Failure Json) :
    Client.closing second result = Client.closing first result := by
  cases calls <;> cases result <;> rfl

theorem request_alike [Url.Domains] :
    Option.Rel Request.AlikeButToken (client.request? first) (client.request? second) := by
  unfold Client.request?
  rw [calls.address_eq client]
  cases Url.read? (client.address first).toList with
  | none => exact .none
  | some url =>
      cases calls with
      | login email password => exact .some ⟨rfl, rfl, rfl, rfl, rfl⟩
      | profile tokens =>
          simp only [tokens.fits_eq]
          split
          · exact .some ⟨rfl, rfl, rfl, rfl, rfl⟩
          · exact .none

theorem result_eq [Url.Domains] (delivery : Delivery) :
    client.result second delivery = client.result first delivery := by
  have requests := calls.request_alike client
  unfold Client.result
  rw [calls.address_eq client]
  generalize client.request? first = request at requests ⊢
  generalize client.request? second = other at requests ⊢
  cases requests with
  | none => rfl
  | some alike => cases delivery <;> rfl

end Call.AlikeButToken

/-- An answer of success whose value hands out a token that can be sent. -/
inductive Delivery.HandsOut : Delivery → Prop
  | answered {response : Response} {json : Json} {token : String}
      (content : response.content? = some json)
      (handed : accessToken? json = some token) (sendable : Sendable token) :
    HandsOut (.answered response)

/-- The same delivery, or two answers that hand out tokens which can be sent. -/
def Delivery.AlikeButToken (first second : Delivery) : Prop :=
  first = second ∨ first.HandsOut ∧ second.HandsOut

theorem Delivery.eq_some_of_arrived? (delivery : Delivery) {request : Option Request}
    {arrived : Request} (reached : delivery.arrived? request = some arrived) :
    request = some arrived := by
  cases delivery with
  | unreachable => cases reached
  | _ => exact reached

theorem Delivery.AlikeButToken.arrived_alike {first second : Delivery}
    (deliveries : first.AlikeButToken second) {request other : Option Request}
    (requests : Option.Rel Request.AlikeButToken request other) :
    Option.Rel Request.AlikeButToken (first.arrived? request) (second.arrived? other) := by
  rcases deliveries with rfl | ⟨⟨⟩, ⟨⟩⟩
  · cases first with
    | unreachable => exact .none
    | _ => exact requests
  · exact requests

/-- The same value, or two that hand out tokens which can be sent. -/
def Json.AlikeButToken (first second : Json) : Prop :=
  first = second ∨
    ∃ token other, accessToken? first = some token ∧ accessToken? second = some other ∧
      Sendable token ∧ Sendable other

theorem Json.AlikeButToken.tokens {first second : Json} (alike : first.AlikeButToken second) :
    TokensAlike ((accessToken? first).getD "") ((accessToken? second).getD "") := by
  rcases alike with rfl | ⟨token, other, handed, handed', sendable, sendable'⟩
  · exact .refl _
  · rw [handed, handed']
    exact .inr ⟨sendable, sendable'⟩

/-- A login with two such deliveries ends in the same failure, or it succeeds with both. -/
theorem Client.result_login_alike [Url.Domains] (client : Client) (email password : String)
    {first second : Delivery} (deliveries : first.AlikeButToken second) :
    (∃ cause, client.result (.login email password) first = .error cause ∧
        client.result (.login email password) second = .error cause) ∨
      ∃ json other : Json, client.result (.login email password) first = .ok json ∧
        client.result (.login email password) second = .ok other ∧ json.AlikeButToken other := by
  rcases deliveries with rfl | ⟨hands, hands'⟩
  · cases client.result (.login email password) first with
    | error cause => exact .inl ⟨cause, rfl, rfl⟩
    | ok json => exact .inr ⟨json, json, rfl, rfl, .inl rfl⟩
  · obtain ⟨content, handed, sendable⟩ := hands
    obtain ⟨content', handed', sendable'⟩ := hands'
    obtain ⟨success, body⟩ := Option.ite_none_right_eq_some.mp content
    obtain ⟨success', body'⟩ := Option.ite_none_right_eq_some.mp content'
    unfold result
    cases client.request? (.login email password) with
    | none => exact .inl ⟨_, rfl, rfl⟩
    | some request =>
        simp only [success, body, success', body', if_true]
        exact .inr ⟨_, _, rfl, rfl, .inr ⟨_, _, handed, handed', sendable, sendable'⟩⟩

end ProfileClient
