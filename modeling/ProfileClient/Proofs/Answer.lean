import ProfileClient.Proofs.Client
import ProfileClient.Proofs.Json.Orderly
import ProfileClient.Proofs.Text.Utf8
/-!
When a call brings a value, and which token a value hands out.
-/
namespace ProfileClient

/-- A token in a call can stand in a header. -/
def Call.FitsHeader : Call → Prop
  | .login .. => True
  | .profile token => ∀ c ∈ token.toList, allowedInHeader c = true

/-- A call brings a value: its request can be sent, and the answer has a status of success and, as
its whole body, the octets of a text of that value. Status 204 stands for no body. -/
inductive Client.Brings [Url.Domains] (client : Client) (call : Call) : Delivery → Json → Prop
  | answered {url : Url} {status : Nat} {text : List Char} {json : Json}
      (address : Url.read? (client.address call).toList = some url) (header : call.FitsHeader)
      (success : 200 ≤ status ∧ status < 300) (bodied : status ≠ 204)
      (value : Json.read text = .ok json) :
    Brings client call (.answered ⟨status, text.flatMap String.utf8EncodeChar, false⟩) json

theorem Client.isSome_request?_iff [Url.Domains] {client : Client} {call : Call} :
    (client.request? call).isSome = true ↔
      (∃ url, Url.read? (client.address call).toList = some url) ∧ call.FitsHeader := by
  unfold request?
  cases read : Url.read? (client.address call).toList with
  | none => simp
  | some url =>
      cases call with
      | login email password => simp [Call.FitsHeader]
      | profile token =>
          simp only [Call.FitsHeader]
          split
          · next fits => simpa using fits
          · next unfit => simpa using unfit

namespace Response

theorem isSuccess_iff {response : Response} :
    response.isSuccess = true ↔ 200 ≤ response.status ∧ response.status < 300 := by
  simp [isSuccess]

theorem json?_eq_some_iff {response : Response} {json : Json} :
    response.json? = some json ↔
      ∃ text, response.received? = some (text.flatMap String.utf8EncodeChar) ∧
        Json.read text = .ok json := by
  unfold json?
  constructor
  · intro held
    obtain ⟨text, decoded, read⟩ := Option.bind_eq_some_iff.mp held
    obtain ⟨octets, received, decoded⟩ := Option.bind_eq_some_iff.mp decoded
    rw [Text.Utf8.decode?_eq_some_iff.mp decoded] at received
    cases given : Json.read text with
    | error fault => simp [given, Except.toOption] at read
    | ok value =>
        rw [given] at read
        cases read
        exact ⟨text, received, given⟩
  · rintro ⟨text, received, read⟩
    have decoded := Text.Utf8.decode?_eq_some_iff.mpr (Eq.refl (text.flatMap String.utf8EncodeChar))
    rw [received, Option.bind_some, decoded, Option.bind_some, read]
    rfl

/-- The text of no octets is empty, and no value has an empty text. -/
theorem json?_eq_none_of_isBodiless {response : Response} (bodiless : response.isBodiless = true) :
    response.json? = none := by
  rw [json?, received?, if_pos bodiless, Option.bind_some, Text.Utf8.decode?_nil]
  rfl

theorem received?_eq_some_iff {response : Response} {octets : List UInt8}
    (bodied : response.isBodiless = false) :
    response.received? = some octets ↔ response.truncated = false ∧ response.body = octets := by
  rw [received?, if_neg (by simp [bodied])]
  cases response.truncated <;> simp

theorem content?_eq_some_iff {response : Response} {json : Json} :
    response.content? = some json ↔
      (200 ≤ response.status ∧ response.status < 300) ∧ response.status ≠ 204 ∧
        response.truncated = false ∧
        ∃ text, response.body = text.flatMap String.utf8EncodeChar ∧ Json.read text = .ok json := by
  rw [content?, Option.ite_none_right_eq_some, isSuccess_iff]
  refine and_congr_right fun success => ?_
  cases bodied : response.isBodiless with
  | true =>
      have status : response.status = 204 := by
        simp only [isBodiless, Bool.or_eq_true, beq_iff_eq] at bodied
        omega
      simp [json?_eq_none_of_isBodiless bodied, status]
  | false =>
      have status : response.status ≠ 204 := by
        intro status
        simp [isBodiless, status] at bodied
      simp only [json?_eq_some_iff, received?_eq_some_iff bodied]
      constructor
      · rintro ⟨text, ⟨whole, body⟩, read⟩
        exact ⟨status, whole, text, body, read⟩
      · rintro ⟨-, whole, text, body, read⟩
        exact ⟨text, ⟨whole, body⟩, read⟩

end Response

namespace Client

theorem result_eq_ok_iff [Url.Domains] {client : Client} {call : Call} {delivery : Delivery}
    {json : Json} :
    client.result call delivery = .ok json ↔ client.Brings call delivery json := by
  have some_iff : client.result call delivery = .ok json ↔
      (client.exchange? call delivery).bind (·.response.content?) = some json := by
    rw [← toOption_result]
    cases client.result call delivery <;> simp [Except.toOption]
  rw [some_iff]
  constructor
  · intro held
    obtain ⟨exchange, made, content⟩ := Option.bind_eq_some_iff.mp held
    cases delivery with
    | answered response =>
        obtain ⟨request, sent, rfl⟩ := Option.map_eq_some_iff.mp made
        obtain ⟨⟨url, address⟩, header⟩ := isSome_request?_iff.mp (Option.isSome_of_mem sent)
        obtain ⟨success, bodied, whole, text, body, value⟩ :=
          Response.content?_eq_some_iff.mp content
        obtain ⟨status, octets, truncated⟩ := response
        cases whole
        cases body
        exact .answered address header success bodied value
    | _ => cases made
  · rintro ⟨address, header, success, bodied, value⟩
    obtain ⟨request, sent⟩ :=
      Option.isSome_iff_exists.mp (isSome_request?_iff.mpr ⟨⟨_, address⟩, header⟩)
    simp only [exchange?, sent, Option.map_some, Option.bind_some]
    exact Response.content?_eq_some_iff.mpr ⟨success, bodied, rfl, _, rfl, value⟩

end Client

/-- The token that an answer to a login hands out: the text in its member of that name, or the
empty one. -/
inductive Json.HandsOut : Json → String → Prop
  | token {members : List (String × Json)} {token : String}
      (held : ("access_token", .string token) ∈ members) : HandsOut (.object members) token
  | none {json : Json}
      (lacks : ∀ members token, json = .object members →
        ("access_token", .string token) ∉ members) : HandsOut json ""

theorem accessToken?_object_eq_some_iff {members : List (String × Json)} {token : String}
    (ascending : members.Pairwise (·.1 < ·.1)) :
    accessToken? (.object members) = some token ↔
      ("access_token", .string token) ∈ members := by
  rw [← Json.find?_eq_some_iff_of_ascending ascending, accessToken?, Json.member?,
    Option.bind_eq_some_iff]
  constructor
  · rintro ⟨_, found, text⟩
    obtain ⟨⟨name, v⟩, first, rfl⟩ := Option.map_eq_some_iff.mp found
    have same : name = "access_token" := by simpa using List.find?_some first
    cases v with
    | string value =>
        cases text
        rw [first, same]
    | _ => cases text
  · intro found
    exact ⟨.string token, by rw [found]; rfl, rfl⟩

section Tokens
variable {json : Json} {depth : Nat} {token : String} (orderly : Json.Orderly depth json)
include orderly

theorem accessToken?_eq_some_iff :
    accessToken? json = some token ↔
      ∃ members, json = .object members ∧ ("access_token", .string token) ∈ members := by
  cases orderly with
  | object ascending _ =>
      rw [accessToken?_object_eq_some_iff ascending]
      simp
  | _ =>
      constructor
      · intro found
        cases found
      · rintro ⟨_, ⟨⟩, _⟩

theorem Json.handsOut_iff : json.HandsOut token ↔ token = (accessToken? json).getD "" := by
  constructor
  · rintro (held | lacks)
    · rw [(accessToken?_eq_some_iff orderly).mpr ⟨_, rfl, held⟩, Option.getD_some]
    · cases found : accessToken? json with
      | none => rfl
      | some token =>
          obtain ⟨members, rfl, held⟩ := (accessToken?_eq_some_iff orderly).mp found
          exact absurd held (lacks members token rfl)
  · rintro rfl
    cases found : accessToken? json with
    | none =>
        refine .none ?_
        rintro members token rfl held
        cases found.symm.trans ((accessToken?_eq_some_iff orderly).mpr ⟨members, rfl, held⟩)
    | some token =>
        obtain ⟨members, rfl, held⟩ := (accessToken?_eq_some_iff orderly).mp found
        exact .token held

end Tokens

theorem Client.Brings.orderly [Url.Domains] {client : Client} {call : Call} {delivery : Delivery}
    {json : Json} (brings : client.Brings call delivery json) : Json.Orderly Json.deepest json := by
  cases brings with
  | answered _ _ _ _ value => exact Json.orderly_of_read value

end ProfileClient
