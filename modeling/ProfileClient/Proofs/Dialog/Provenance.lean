import Mathlib.Data.List.Induction
import ProfileClient.Proofs.Answer
import ProfileClient.Proofs.Dialog.Effects
import ProfileClient.Proofs.LoginBody
/-!
Where the token, the profile and the requests of a run come from. The session holds what the last
outcome of each kind brought, and a call holds what the form and the session held when it was
started, whatever happens later.
-/
namespace ProfileClient.Dialog

def loginResponse? : Outcome → Option Json
  | .loggedIn response => some response
  | _ => none

def fetchResponse? : Outcome → Option Json
  | .profile profile => some profile
  | _ => none

namespace Reply
variable [Url.Domains]

/-- A login that succeeded, with what its answer brought. -/
def LogsIn (client : Client) (reply : Reply) (response : Json) : Prop :=
  (∃ email password, reply.task.call = .login email password) ∧
    client.Brings reply.task.call reply.delivery response

/-- A fetch that succeeded, with what its answer brought. -/
def Fetches (client : Client) (reply : Reply) (profile : Json) : Prop :=
  (∃ token, reply.task.call = .profile token) ∧
    client.Brings reply.task.call reply.delivery profile

theorem loginResponse?_outcome_iff {client : Client} {reply : Reply} {response : Json} :
    loginResponse? (reply.outcome client) = some response ↔ reply.LogsIn client response := by
  unfold LogsIn outcome result
  rw [← Client.result_eq_ok_iff]
  cases reply.task.call <;> cases client.result _ reply.delivery <;>
    simp [Call.outcome, loginResponse?]

theorem fetchResponse?_outcome_iff {client : Client} {reply : Reply} {profile : Json} :
    fetchResponse? (reply.outcome client) = some profile ↔ reply.Fetches client profile := by
  unfold Fetches outcome result
  rw [← Client.result_eq_ok_iff]
  cases reply.task.call <;> cases client.result _ reply.delivery <;>
    simp [Call.outcome, fetchResponse?]

end Reply

/-- What the last of some replies brought that brought something of a kind; `none` if none did. -/
inductive Last (kind : Reply → Json → Prop) (replies : List Reply) : Option Json → Prop
  | some {before after : List Reply} {reply : Reply} {v : Json}
      (split : replies = before ++ reply :: after) (brought : kind reply v)
      (last : ∀ later ∈ after, ∀ w, ¬ kind later w) : Last kind replies (some v)
  | none (never : ∀ reply ∈ replies, ∀ v, ¬ kind reply v) : Last kind replies none

theorem last_getLast? {kind : Reply → Json → Prop} {f : Reply → Option Json}
    (kind_iff : ∀ reply v, f reply = some v ↔ kind reply v) (replies : List Reply) :
    Last kind replies (replies.filterMap f).getLast? := by
  cases found : (replies.filterMap f).getLast? with
  | none =>
      refine .none fun reply mem v brought => ?_
      have empty := List.filterMap_eq_nil_iff.mp (List.getLast?_eq_none_iff.mp found) reply mem
      cases empty.symm.trans ((kind_iff reply v).mpr brought)
  | some v =>
      obtain ⟨before, reply, after, split, brought, last⟩ :=
        getLast?_filterMap_eq_some_iff.mp found
      refine .some split ((kind_iff reply v).mp brought) fun later mem w brought => ?_
      cases (last later mem).symm.trans ((kind_iff later w).mpr brought)

namespace Run
variable [Url.Domains]

def outcomes (run : Run) : List Outcome := run.applied.map (·.outcome run.dialog.client)

def logins (run : Run) : List Json := run.outcomes.filterMap loginResponse?

def fetches (run : Run) : List Json := run.outcomes.filterMap fetchResponse?

/-- The token is that of the last login taken in, the profile that of the last fetch. -/
structure Sourced (run : Run) : Prop where
  token_eq : run.dialog.session.token = lastToken run.logins
  profile_eq : run.dialog.session.profile = run.fetches.getLast?

theorem start_sourced (settings : Settings) : (start settings).Sourced := ⟨rfl, rfl⟩

theorem Sourced.of_same {run next : Run} (h : run.Sourced)
    (applied : next.applied = run.applied) (client : next.dialog.client = run.dialog.client)
    (token : next.dialog.session.token = run.dialog.session.token)
    (profile : next.dialog.session.profile = run.dialog.session.profile) : next.Sourced := by
  refine ⟨?_, ?_⟩
  · rw [token, h.token_eq, logins, logins, outcomes, outcomes, applied, client]
  · rw [profile, h.profile_eq, fetches, fetches, outcomes, outcomes, applied, client]

theorem Sourced.of_moves {run next : Run} {input : Input} (h : run.Sourced)
    (moves : run.Moves input next) : next.Sourced := by
  cases moves with
  | press key => exact h.of_same rfl (press_client _ _) (press_token _ _) (press_profile _ _)
  | @take reply rest held =>
      obtain ⟨token, profile⟩ := h
      simp only [logins, fetches, outcomes] at token profile
      refine ⟨?_, ?_⟩ <;>
        simp only [receive_session, receive_client, logins, fetches, outcomes, List.map_append,
          List.map_cons, List.map_nil, List.filterMap_append]
      · cases reply.outcome run.dialog.client with
        | loggedIn response => exact (lastToken_concat _ response).symm
        | profile body => simpa [loginResponse?, List.filterMap_cons] using token
        | failed error => simpa [loginResponse?, List.filterMap_cons] using token
      · cases reply.outcome run.dialog.client with
        | loggedIn response => simpa [fetchResponse?, List.filterMap_cons] using profile
        | profile body => exact List.getLast?_concat.symm
        | failed error => simpa [fetchResponse?, List.filterMap_cons] using profile
  | _ => exact h.of_same rfl rfl rfl rfl

theorem replay_sourced (settings : Settings) (inputs : List Input) :
    ((start settings).replay inputs).Sourced :=
  replay_induction (fun run input h => h.of_moves (moves_step run input)) inputs
    (start_sourced settings)

section Last
variable (run : Run)

theorem last_logins : Last (Reply.LogsIn run.dialog.client) run.applied run.logins.getLast? := by
  rw [logins, outcomes, List.filterMap_map]
  exact last_getLast? (fun _ _ => Reply.loginResponse?_outcome_iff) run.applied

theorem last_fetches : Last (Reply.Fetches run.dialog.client) run.applied run.fetches.getLast? := by
  rw [fetches, outcomes, List.filterMap_map]
  exact last_getLast? (fun _ _ => Reply.fetchResponse?_outcome_iff) run.applied

end Last

/-- The token is what the last login handed out, and empty if none succeeded. -/
theorem Sourced.token {run : Run} (h : run.Sourced) :
    (∃ response, Last (Reply.LogsIn run.dialog.client) run.applied (some response) ∧
        response.HandsOut run.dialog.session.token) ∨
      Last (Reply.LogsIn run.dialog.client) run.applied none ∧ run.dialog.session.token = "" := by
  have last := run.last_logins
  rw [h.token_eq, lastToken]
  cases found : run.logins.getLast? with
  | none => exact .inr ⟨found ▸ last, rfl⟩
  | some response =>
      rw [found] at last
      cases last with
      | some split brought later =>
          refine .inl ⟨response, .some split brought later, ?_⟩
          exact (Json.handsOut_iff brought.2.orderly).mpr rfl

/-- A press of the enter key starts the call in this state: the call holds what the form or the
session holds, and a token that it holds came with a login taken in before. -/
def Asks (client : Client) (run : Run) : Call → Prop
  | .login email password =>
    run.dialog.focus = .loginButton ∧ email = run.dialog.session.email ∧
      password = run.dialog.session.password
  | .profile token =>
    run.dialog.focus = .profileButton ∧ token = run.dialog.session.token ∧ token ≠ "" ∧
      ∃ reply ∈ run.applied, ∃ response, reply.LogsIn client response ∧ response.HandsOut token

theorem Sourced.asks {run : Run} (h : run.Sourced) {key : Key} {call : Call}
    (started : run.dialog.call? key = some call) :
    key = .enter ∧ run.Asks run.dialog.client call := by
  obtain ⟨rfl, ⟨focus, rfl⟩ | ⟨focus, token, rfl⟩⟩ := call?_eq_some_iff.mp started
  · exact ⟨rfl, focus, rfl, rfl⟩
  · refine ⟨rfl, focus, rfl, token, ?_⟩
    rcases h.token with ⟨response, last, handed⟩ | ⟨-, empty⟩
    · cases last with
      | @some before after reply _ split brought _ =>
          exact ⟨reply, by simp [split], response, brought, handed⟩
    · exact absurd empty token

/-- Where a call comes from: the press that started it, with the state of that moment. -/
theorem exists_press_of_started (settings : Settings) (inputs : List Input) {number : Nat}
    {call : Call} (started : ((start settings).replay inputs).started[number]? = some call) :
    ∃ before after, inputs = before ++ .press .enter :: after ∧
      ((start settings).replay before).started.length = number ∧
      ((start settings).replay before).Asks (.at settings.baseUrl settings.clientOptions) call := by
  induction inputs using List.reverseRecOn with
  | nil => simp [replay, start] at started
  | append_singleton inputs input ih =>
      let run := (start settings).replay inputs
      have replayed : (start settings).replay (inputs ++ [input]) = run.step input :=
        replay_append inputs [input] (start settings)
      rw [replayed, (moves_step run input).started_eq] at started
      by_cases old : number < run.started.length
      · rw [List.getElem?_append_left old] at started
        obtain ⟨before, after, rfl, length, asks⟩ := ih started
        exact ⟨before, after ++ [input], by simp, length, asks⟩
      · rw [List.getElem?_append_right (Nat.le_of_not_lt old)] at started
        cases input with
        | press key =>
            cases pressed : run.dialog.call? key with
            | none => simp [pressed] at started
            | some new =>
                simp only [pressed, Option.toList_some, List.getElem?_singleton,
                  Option.ite_none_right_eq_some, Option.some.injEq] at started
                obtain ⟨last, rfl⟩ := started
                obtain ⟨rfl, asks⟩ := (replay_sourced settings inputs).asks pressed
                rw [replay_client inputs (start settings)] at asks
                have length : run.started.length = number := by omega
                exact ⟨inputs, [], rfl, length, asks⟩
        | _ => simp at started

/-- A reply on its way to the dialog or taken in by it. -/
def Holds (run : Run) (reply : Reply) : Prop :=
  reply ∈ run.replied ∨ reply ∈ run.channel ∨ reply ∈ run.applied

theorem Moves.holds {run next : Run} {input : Input} {reply : Reply} (moves : run.Moves input next)
    (held : next.Holds reply) :
    run.Holds reply ∨
      ∃ place, input = .answer place reply.delivery ∧ run.pending[place]? = some reply.task := by
  cases moves with
  | answer delivery found =>
      rcases held with waits | later
      · rcases List.mem_append.mp waits with old | new
        · exact .inl (.inl old)
        · cases List.mem_singleton.mp new
          exact .inr ⟨_, rfl, found⟩
      · exact .inl (.inr later)
  | post found free =>
      rcases held with waits | sent | applied
      · exact .inl (.inl (List.mem_of_mem_eraseIdx waits))
      · rcases List.mem_append.mp sent with old | new
        · exact .inl (.inr (.inl old))
        · cases List.mem_singleton.mp new
          exact .inl (.inl (List.mem_of_getElem? found))
      · exact .inl (.inr (.inr applied))
  | take stood =>
      rcases held with waits | sent | applied
      · exact .inl (.inl waits)
      · exact .inl (.inr (.inl (stood ▸ List.mem_cons_of_mem _ sent)))
      · rcases List.mem_append.mp applied with old | new
        · exact .inl (.inr (.inr old))
        · cases List.mem_singleton.mp new
          exact .inl (.inr (.inl (stood ▸ List.mem_cons_self)))
  | _ => exact .inl held

theorem exists_answer_of_holds (settings : Settings) (inputs : List Input) {reply : Reply}
    (held : ((start settings).replay inputs).Holds reply) :
    ∃ before place after, inputs = before ++ .answer place reply.delivery :: after ∧
      ((start settings).replay before).pending[place]? = some reply.task := by
  induction inputs using List.reverseRecOn with
  | nil => rcases held with none | none | none <;> cases none
  | append_singleton inputs input ih =>
      rw [replay_append] at held
      rcases (moves_step _ input).holds held with old | ⟨place, rfl, found⟩
      · obtain ⟨before, place, after, rfl, found⟩ := ih old
        exact ⟨before, place, after ++ [input], by simp, found⟩
      · exact ⟨inputs, place, [], rfl, found⟩

/-- The replies that have reached the channel, in the order in which they did; the dialog takes them
in from the front. -/
def arrivals (run : Run) : List Reply := run.applied ++ run.channel

theorem Moves.arrivals_grow {run next : Run} {input : Input} (moves : run.Moves input next) :
    run.arrivals <+: next.arrivals := by
  cases moves with
  | @post place reply found free => exact ⟨[reply], List.append_assoc ..⟩
  | take held => simp [arrivals, held]
  | _ => exact List.prefix_rfl

theorem arrivals_grow (run : Run) (inputs : List Input) :
    run.arrivals <+: (run.replay inputs).arrivals :=
  replay_induction (motive := fun next => run.arrivals <+: next.arrivals)
    (fun next input before => before.trans (moves_step next input).arrivals_grow) inputs
    List.prefix_rfl

/-- In every state of every run the token is what the last login taken in that succeeded handed out,
and the profile what the last such fetch brought. Replies are taken in as they arrive, and each is
what the backend answered to its call. Each call holds what the form or the session held when the
enter key started it, its request reads as just that, and a token sent came with a login before. -/
theorem replay_provenance (settings : Settings) (inputs : List Input) :
    let run := (start settings).replay inputs
    let client := Client.at settings.baseUrl settings.clientOptions
    ((∃ response, Last (Reply.LogsIn client) run.applied (some response) ∧
          response.HandsOut run.dialog.session.token) ∨
        Last (Reply.LogsIn client) run.applied none ∧ run.dialog.session.token = "") ∧
      Last (Reply.Fetches client) run.applied run.dialog.session.profile ∧
      (run.applied <+: run.arrivals ∧ ∀ before after, inputs = before ++ after →
        ((start settings).replay before).arrivals <+: run.arrivals) ∧
      (∀ reply ∈ run.applied, ∃ before place after,
        inputs = before ++ .answer place reply.delivery :: after ∧
          ((start settings).replay before).pending[place]? = some reply.task) ∧
      (∀ number call, run.started[number]? = some call →
        ∃ before after, inputs = before ++ .press .enter :: after ∧
          ((start settings).replay before).started.length = number ∧
          ((start settings).replay before).Asks client call) ∧
      ∀ (number : Nat) (request : Request), run.requests[number]? = some (some request) →
        ∃ call, run.started[number]? = some call ∧ request.Carries client call := by
  intro run client
  have sourced : run.Sourced := replay_sourced settings inputs
  have same : run.dialog.client = client := replay_client inputs (start settings)
  refine ⟨same ▸ sourced.token, ?_, ⟨List.prefix_append .., ?_⟩,
    fun _ applied => exists_answer_of_holds settings inputs (.inr (.inr applied)),
    fun _ _ => exists_press_of_started settings inputs, ?_⟩
  · rw [sourced.profile_eq, ← same]
    exact run.last_fetches
  · rintro before after rfl
    have later := arrivals_grow ((start settings).replay before) after
    rwa [← replay_append] at later
  · intro number request sent
    rw [requests, List.getElem?_map, Option.map_eq_some_iff] at sent
    obtain ⟨call, started, sent⟩ := sent
    exact ⟨call, started, same ▸ Client.request?_carries sent⟩

end Run
end ProfileClient.Dialog
