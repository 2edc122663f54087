import ProfileClient.Proofs.Answer
import ProfileClient.Proofs.Session.Effects
/-!
The two calls of a session end in one of two ways: the backend brought a value, which changes one
field, or nothing changes at all.
-/
namespace ProfileClient.Session

/-- A step on a session succeeds just if something was brought to it, and then the session is
changed as said; else the step fails with the error and leaves the session as it was. -/
structure Step.Settles (step : Step) (session : Session) (brought : Json → Prop)
    (changed : Json → Session → Prop) (error : CallError) : Prop where
  ok_iff : step.result = .ok () ↔ ∃ json, brought json
  succeeded : ∀ json, brought json → changed json step.session
  failed : (∀ json, ¬ brought json) →
    step.result = .error (.call error) ∧ step.session = session

theorem Step.Settles.of_makes [Url.Domains] {client : Client} {call : Call} {delivery : Delivery}
    {session : Session} {step : Step} {take : Json → Session} {changed : Json → Session → Prop}
    (makes : step.Makes client call delivery session take)
    (takes : ∀ json, Json.Orderly Json.deepest json → changed json (take json)) :
    step.Settles session (client.Brings call delivery) changed call.error := by
  have brings : ∀ json, client.Brings call delivery json ↔ client.result call delivery = .ok json :=
    fun _ => Client.result_eq_ok_iff.symm
  cases result : client.result call delivery with
  | ok json =>
      obtain ⟨succeeded, taken⟩ := makes.ok json result
      have brought : client.Brings call delivery json := (brings json).mpr result
      refine ⟨⟨fun _ => ⟨json, brought⟩, fun _ => succeeded⟩, ?_, ?_⟩
      · intro other broughtOther
        cases result.symm.trans ((brings other).mp broughtOther)
        rw [taken]
        exact takes json brought.orderly
      · intro none
        exact absurd brought (none json)
  | error cause =>
      have none : ∀ json, ¬ client.Brings call delivery json := by
        intro json brought
        cases result.symm.trans ((brings json).mp brought)
      obtain ⟨failed, same⟩ := makes.error cause result
      refine ⟨⟨?_, ?_⟩, fun json brought => absurd brought (none json), fun _ => ⟨failed, same⟩⟩
      · intro succeeded
        cases failed.symm.trans succeeded
      · rintro ⟨json, brought⟩
        exact absurd brought (none json)

section Calls
variable [Url.Domains] (client : Client) (delivery : Delivery) (session : Session)

theorem login_settles :
    (session.login client delivery).Settles session
      (client.Brings (.login session.email session.password) delivery)
      (fun json next => next = { session with token := next.token } ∧
        ∀ token, json.HandsOut token ↔ token = next.token) .loginFailed := by
  apply Step.Settles.of_makes (session.login_makes client delivery)
  intro json orderly
  refine ⟨rfl, ?_⟩
  intro token
  exact Json.handsOut_iff orderly

theorem fetchProfile_settles (held : session.token ≠ "") :
    (session.fetchProfile client delivery).Settles session
      (client.Brings (.profile session.token) delivery)
      (fun json next => next = { session with profile := some json }) .fetchFailed := by
  have makes := session.fetchProfile_makes client delivery ((canFetch_iff session).mpr held)
  exact .of_makes makes fun _ _ => rfl

theorem fetchProfile_of_empty (empty : session.token = "") :
    session.fetchProfile client delivery = ⟨session, .error .notLoggedIn, none, []⟩ := by
  have noToken : ¬ session.canFetch = true := fun held => (canFetch_iff session).mp held empty
  exact if_neg noToken

/-- A login succeeds just if its request could be sent and was answered with success and the text of
one value; it then changes the token, to the one that the value hands out, and else nothing. A fetch
without a token sends nothing and changes nothing; with one it succeeds likewise, and then changes
the profile, to the value that was brought, and else nothing. -/
theorem calls_settle :
    (session.login client delivery).Settles session
        (client.Brings (.login session.email session.password) delivery)
        (fun json next => next = { session with token := next.token } ∧
          ∀ token, json.HandsOut token ↔ token = next.token) .loginFailed ∧
      (session.token = "" →
        session.fetchProfile client delivery = ⟨session, .error .notLoggedIn, none, []⟩) ∧
      (session.token ≠ "" →
        (session.fetchProfile client delivery).Settles session
          (client.Brings (.profile session.token) delivery)
          (fun json next => next = { session with profile := some json }) .fetchFailed) := by
  refine ⟨login_settles client delivery session, ?_, ?_⟩
  · intro empty
    exact fetchProfile_of_empty client delivery session empty
  · intro held
    exact fetchProfile_settles client delivery session held

end Calls
end ProfileClient.Session
