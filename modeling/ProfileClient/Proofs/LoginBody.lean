import ProfileClient.Proofs.Client
import ProfileClient.Proofs.Json.RoundTrip
/-!
The body of a login says what was given and nothing else, whatever characters the texts hold.
-/
namespace ProfileClient.Client

/-- What a login has to say: email and password, and the organisation if there is one. -/
inductive Says (client : Client) (email password : String) : String → Json → Prop
  | email : Says client email password "email" (.string email)
  | password : Says client email password "password" (.string password)
  | organisation {orgId : String} (configured : client.options.orgId = some orgId) :
    Says client email password "org_id" (.string orgId)

/-- The members of a login body in the order in which a reader gives them. -/
def loginMembers (client : Client) (email password : String) : List (String × Json) :=
  ("email", .string email) ::
    ((client.options.orgId.map fun orgId => ("org_id", Json.string orgId)).toList ++
      [("password", .string password)])

section Body
variable (client : Client) (email password : String)

theorem mem_loginMembers_iff {name : String} {v : Json} :
    (name, v) ∈ client.loginMembers email password ↔ client.Says email password name v := by
  simp only [loginMembers, List.mem_cons, List.mem_append, Option.mem_toList,
    Option.map_eq_some_iff, Prod.mk.injEq, List.not_mem_nil, or_false]
  constructor
  · rintro (⟨rfl, rfl⟩ | ⟨orgId, configured, rfl, rfl⟩ | ⟨rfl, rfl⟩)
    · exact .email
    · exact .organisation configured
    · exact .password
  · rintro (_ | _ | ⟨configured⟩)
    · exact .inl ⟨rfl, rfl⟩
    · exact .inr (.inr ⟨rfl, rfl⟩)
    · exact .inr (.inl ⟨_, configured, rfl, rfl⟩)

theorem names_loginMembers_nodup : ((client.loginMembers email password).map Prod.fst).Nodup := by
  unfold loginMembers
  cases client.options.orgId <;> simp

theorem loginBody_placed :
    ∃ members, client.loginBody email password = .object members ∧
      (∀ member ∈ members, ∃ s, member.2 = .string s) ∧
      Json.ofMembersReversed members.reverse = .object (client.loginMembers email password) := by
  have emailFirst : ∀ rest, (∀ member ∈ rest, member.1 = "org_id" ∨ member.1 = "password") →
      Json.insertNew "email" (.string email) rest = ("email", .string email) :: rest := by
    intro rest names
    apply Json.insertNew_of_lt
    intro member mem
    rcases names member mem with name | name
    · rw [name]
      decide
    · rw [name]
      decide
  have passwordLast : ∀ orgId, Json.insertNew "password" (.string password) [("org_id", orgId)] =
      [("org_id", orgId), ("password", .string password)] := by
    intro orgId
    have notBefore : ¬ "password" < "org_id" := by decide
    have other : "password" ≠ "org_id" := by decide
    rw [Json.insertNew, if_neg notBefore, if_neg other, Json.insertNew]
  refine ⟨_, rfl, ?_, ?_⟩
  · cases client.options.orgId <;> simp
  · rw [Json.ofMembersReversed, List.foldl_reverse, loginMembers]
    cases client.options.orgId with
    | none =>
        simp only [List.append_nil, List.foldr_cons, List.foldr_nil]
        rw [Json.insertNew, emailFirst _ (by simp)]
        rfl
    | some orgId =>
        simp only [List.cons_append, List.nil_append, List.foldr_cons, List.foldr_nil]
        rw [Json.insertNew, passwordLast, emailFirst _ (by simp)]
        rfl

theorem read_loginBody :
    Json.read (client.loginBody email password).compact.toList =
      .ok (.object (client.loginMembers email password)) := by
  obtain ⟨members, body, strings, placed⟩ := client.loginBody_placed email password
  rw [body, Json.compact, String.toList_ofList, ← placed]
  apply Json.read_of_readsAs
  refine Json.readsAs_object Json.Spacing.compact_blank 0 ?_
  intro member mem
  obtain ⟨s, text⟩ := strings member mem
  rw [text]
  exact Json.readsAs_string s

end Body

theorem loginMembers_inj {client client' : Client} {email password email' password' : String}
    (same : client.loginMembers email password = client'.loginMembers email' password') :
    email = email' ∧ password = password' ∧ client.options.orgId = client'.options.orgId := by
  unfold loginMembers at same
  cases configured : client.options.orgId <;> cases configured' : client'.options.orgId <;>
    simp only [configured, configured', Option.map_none, Option.map_some, Option.toList_none,
      Option.toList_some, List.nil_append, List.singleton_append, List.cons.injEq, Prod.mk.injEq,
      Json.string.injEq, true_and, and_true] at same
  · exact ⟨same.1, same.2, rfl⟩
  · exact absurd same.2 (by simp)
  · exact absurd same.2 (by simp)
  · exact ⟨same.1, same.2.2, congrArg some same.2.1⟩

end Client

/-- What the request of a call says to the backend: a login, in an object with just these members,
what was given to it; a fetch the token. -/
def Request.Carries (client : Client) (request : Request) : Call → Prop
  | .login email password =>
    request.method = .post ∧ request.authorization = none ∧
      request.contentType = some "application/json" ∧
      ∃ members, Json.read request.body.toList = .ok (.object members) ∧
        (members.map Prod.fst).Nodup ∧
        ∀ name v, (name, v) ∈ members ↔ client.Says email password name v
  | .profile token =>
    request.method = .get ∧ request.authorization = some ("Bearer " ++ token) ∧
      request.contentType = none ∧ request.body = ""

namespace Client

theorem request?_carries [Url.Domains] {client : Client} {call : Call} {request : Request}
    (sent : client.request? call = some request) : request.Carries client call := by
  cases call with
  | login email password =>
      obtain ⟨method, authorization, contentType, body⟩ := request?_login sent
      refine ⟨method, authorization, contentType, client.loginMembers email password, ?_,
        client.names_loginMembers_nodup email password,
        fun _ _ => client.mem_loginMembers_iff email password⟩
      rw [body, client.read_loginBody email password]
  | profile token => exact request?_profile sent

/-- The body of a login that is sent reads as an object with just the members it has to hold, each
once. So two logins with the same body have the same email, password and organisation. -/
theorem login_body_faithful [Url.Domains] :
    (∀ (client : Client) (email password : String) (request : Request),
        client.request? (.login email password) = some request →
        ∃ members, Json.read request.body.toList = .ok (.object members) ∧
          (members.map Prod.fst).Nodup ∧
          ∀ name v, (name, v) ∈ members ↔ client.Says email password name v) ∧
      ∀ (client client' : Client) (email password email' password' : String)
        (request request' : Request), client.request? (.login email password) = some request →
        client'.request? (.login email' password') = some request' → request.body = request'.body →
        email = email' ∧ password = password' ∧ client.options.orgId = client'.options.orgId := by
  refine ⟨?_, ?_⟩
  · intro client email password request sent
    exact (request?_carries sent).2.2.2
  · intro client client' email password email' password' request request' sent sent' same
    rw [(request?_login sent).2.2.2, (request?_login sent').2.2.2] at same
    have read := client.read_loginBody email password
    rw [same, client'.read_loginBody email' password'] at read
    have members := Json.object.inj (Except.ok.inj read)
    exact loginMembers_inj members.symm

attribute [local instance] Url.Domains.ascii

/-- A password that spells out a further member adds none. -/
theorem login_body_faithful_of_quotes :
    let client : Client := .at "http://localhost:8000" ⟨none, none⟩
    ∃ request members,
      client.request? (.login "ada\\" "\",\"org_id\":\"A") = some request ∧
        Json.read request.body.toList = .ok (.object members) ∧ ∀ v, ("org_id", v) ∉ members := by
  intro client
  obtain ⟨request, sent⟩ : ∃ request,
      client.request? (.login "ada\\" "\",\"org_id\":\"A") = some request :=
    Option.isSome_iff_exists.mp (by decide +kernel)
  obtain ⟨members, read, -, holds⟩ := login_body_faithful.1 client _ _ request sent
  refine ⟨request, members, sent, read, ?_⟩
  intro v mem
  have said := (holds "org_id" v).mp mem
  generalize name : "org_id" = n at said
  cases said with
  | email => exact absurd name (by decide)
  | password => exact absurd name (by decide)
  | organisation configured => cases configured

end ProfileClient.Client
