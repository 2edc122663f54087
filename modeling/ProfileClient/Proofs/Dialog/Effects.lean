import ProfileClient.Dialog.Run
import ProfileClient.Proofs.Session.Effects
/-!
What keys, sizes and outcomes do to the parts of a dialog, and how a run is read input by input.
-/
namespace ProfileClient.Dialog

theorem edit_eq (change : String → String) (dialog : Dialog) :
    dialog.edit change =
      { dialog with session :=
        { dialog.session with
          email := if dialog.focus = .email then change dialog.session.email
            else dialog.session.email
          password := if dialog.focus = .password then change dialog.session.password
            else dialog.session.password } } := by
  rcases dialog with ⟨client, session, quitting, focus, notice, inFlight, scroll, pane⟩
  cases focus <;> simp [edit]

/-- The enter key changes the focus, the count and the notice alone. -/
theorem enter_eq (dialog : Dialog) :
    dialog.enter =
      { dialog with
        focus := dialog.enter.focus
        notice := dialog.enter.notice
        inFlight := dialog.enter.inFlight } := by
  unfold enter
  cases dialog.focus with
  | profileButton =>
      simp only [startFetch]
      split <;> rfl
  | _ => rfl

/-- The backend, what came from it and the size of the pane: no key changes any of them. -/
theorem press_keeps (key : Key) (dialog : Dialog) :
    (dialog.press key).client = dialog.client ∧
      (dialog.press key).session.token = dialog.session.token ∧
      (dialog.press key).session.profile = dialog.session.profile ∧
      (dialog.press key).pane = dialog.pane := by
  cases key with
  | enter =>
      rw [press, enter_eq]
      exact ⟨rfl, rfl, rfl, rfl⟩
  | backspace =>
      rw [press, edit_eq]
      exact ⟨rfl, rfl, rfl, rfl⟩
  | char c =>
      rw [press, edit_eq]
      split <;> exact ⟨rfl, rfl, rfl, rfl⟩
  | _ => exact ⟨rfl, rfl, rfl, rfl⟩

@[simp]
theorem press_client (key : Key) (dialog : Dialog) : (dialog.press key).client = dialog.client :=
  (press_keeps key dialog).1

@[simp]
theorem press_token (key : Key) (dialog : Dialog) :
    (dialog.press key).session.token = dialog.session.token := (press_keeps key dialog).2.1

@[simp]
theorem press_profile (key : Key) (dialog : Dialog) :
    (dialog.press key).session.profile = dialog.session.profile := (press_keeps key dialog).2.2.1

/-- The calls that keys start: all by the enter key, on one of the two buttons. -/
theorem call?_eq_some_iff {key : Key} {dialog : Dialog} {call : Call} :
    dialog.call? key = some call ↔ key = .enter ∧
      ((dialog.focus = .loginButton ∧
          call = .login dialog.session.email dialog.session.password) ∨
        (dialog.focus = .profileButton ∧ dialog.session.token ≠ "" ∧
          call = .profile dialog.session.token)) := by
  unfold call?
  split
  · next focus => simp [focus, eq_comm (a := call)]
  · next focus =>
      split
      · next fetch => simp [focus, (Session.canFetch_iff _).mp fetch, eq_comm (a := call)]
      · next fetch =>
          have empty : dialog.session.token = "" := by simpa [Session.canFetch] using fetch
          simp [focus, empty]
  · next noLogin noFetch =>
      constructor
      · intro h
        cases h
      · rintro ⟨rfl, ⟨focus, -⟩ | ⟨focus, -⟩⟩
        · exact absurd focus (noLogin rfl)
        · exact absurd focus (noFetch rfl)

theorem press_inFlight (key : Key) (dialog : Dialog) :
    (dialog.press key).inFlight = dialog.inFlight + (dialog.call? key).toList.length := by
  cases key with
  | enter =>
      change (dialog.enter).inFlight = _
      unfold enter call?
      cases focus : dialog.focus with
      | email => rfl
      | password => rfl
      | loginButton => rfl
      | profileButton =>
          simp only [startFetch]
          split <;> rfl
  | backspace => simp only [press, edit_eq]; rfl
  | char c =>
      simp only [press, edit_eq]
      split <;> rfl
  | _ => rfl

@[simp]
theorem receive_client (outcome : Outcome) (dialog : Dialog) :
    (dialog.receive outcome).client = dialog.client := by
  cases outcome with
  | loggedIn response =>
      simp only [receive]
      split <;> rfl
  | profile _ => rfl
  | failed _ => rfl

@[simp]
theorem receive_inFlight (outcome : Outcome) (dialog : Dialog) :
    (dialog.receive outcome).inFlight = dialog.inFlight - 1 := by
  cases outcome with
  | loggedIn response =>
      simp only [receive]
      split <;> rfl
  | profile _ => rfl
  | failed _ => rfl

theorem receive_session (outcome : Outcome) (dialog : Dialog) :
    (dialog.receive outcome).session =
      match outcome with
      | .loggedIn response => dialog.session.applyLogin response
      | .profile profile => dialog.session.applyProfile profile
      | .failed _ => dialog.session := by
  cases outcome with
  | loggedIn response =>
      simp only [receive]
      split <;> rfl
  | profile _ => rfl
  | failed _ => rfl

namespace Run

theorem press_eq (key : Key) (run : Run) :
    run.press key =
      { run with
        dialog := run.dialog.press key
        started := run.started ++ (run.dialog.call? key).toList
        pending := run.pending ++ (run.dialog.call? key).toList.map (Task.mk run.started.length)
        events := run.events ++ (run.dialog.call? key).toList.map run.dialog.client.opening } := by
  unfold press
  cases run.dialog.call? key <;> simp

variable [Url.Domains]

@[simp]
theorem replay_append (first second : List Input) (run : Run) :
    run.replay (first ++ second) = (run.replay first).replay second :=
  List.foldl_append ..

/-- What holds at the start and is kept by each input holds at the end of every run. -/
theorem replay_induction {motive : Run → Prop}
    (keep : ∀ run input, motive run → motive (run.step input)) (inputs : List Input) {run : Run}
    (h : motive run) : motive (run.replay inputs) := by
  induction inputs generalizing run with
  | nil => exact h
  | cons input inputs ih => exact ih (keep run input h)

/-- What the inputs of a run yield, each in the state that it meets. -/
def collect {α : Type} (yield : Run → Input → List α) (run : Run) : List Input → List α
  | [] => []
  | input :: inputs => yield run input ++ collect yield (run.step input) inputs

/-- What each input updates by what it yields has been updated, after a run, by all of that in
turn. -/
theorem replay_eq_foldl {α β : Type} (value : Run → β) {update : β → α → β}
    {yield : Run → Input → List α}
    (steps : ∀ run input,
      value (run.step input) = (yield run input).foldl update (value run))
    (inputs : List Input) (run : Run) :
    value (run.replay inputs) = (collect yield run inputs).foldl update (value run) := by
  induction inputs generalizing run with
  | nil => rfl
  | cons input inputs ih =>
      rw [collect, List.foldl_append, ← steps]
      exact ih (run.step input)

/-- What an input does to a run. Only an answer, a post or a take can find nothing to act on. -/
inductive Moves (run : Run) : Input → Run → Prop
  | press (key : Key) :
    Moves run (.press key)
      { run with
        dialog := run.dialog.press key
        started := run.started ++ (run.dialog.call? key).toList
        pending := run.pending ++ (run.dialog.call? key).toList.map (Task.mk run.started.length)
        events := run.events ++ (run.dialog.call? key).toList.map run.dialog.client.opening }
  | resize (pane : Size) : Moves run (.resize pane) { run with dialog := run.dialog.resize pane }
  | answer {place : Nat} {task : Task} (delivery : Delivery)
      (found : run.pending[place]? = some task) :
    Moves run (.answer place delivery)
      { run with
        pending := run.pending.eraseIdx place
        replied := run.replied ++ [⟨task, delivery⟩]
        events := run.events ++
          [Client.closing task.call (run.dialog.client.result task.call delivery)] }
  | post {place : Nat} {reply : Reply} (found : run.replied[place]? = some reply)
      (free : run.channel.length < places) :
    Moves run (.post place)
      { run with
        replied := run.replied.eraseIdx place
        channel := run.channel ++ [reply] }
  | take {reply : Reply} {rest : List Reply} (held : run.channel = reply :: rest) :
    Moves run .take
      { run with
        dialog := run.dialog.receive (reply.outcome run.dialog.client)
        channel := rest
        applied := run.applied ++ [reply]
        events := run.events ++ Dialog.events (reply.outcome run.dialog.client) }
  | idle {input : Input} (noKey : ∀ key, input ≠ .press key) : Moves run input run

theorem moves_step (run : Run) (input : Input) : run.Moves input (run.step input) := by
  cases input with
  | press key =>
      rw [step, press_eq]
      exact .press key
  | resize pane => exact .resize pane
  | answer place delivery =>
      rw [step, Run.answer]
      split
      · exact .idle (by simp)
      · next task found => exact .answer delivery found
  | post place =>
      rw [step, Run.post]
      split
      · exact .idle (by simp)
      · next reply found =>
          split
          · next free => exact .post found free
          · exact .idle (by simp)
  | take =>
      rw [step, Run.take]
      split
      · exact .idle (by simp)
      · next reply rest held => exact .take held

/-- Only keys, sizes and replies taken in reach the dialog. -/
theorem step_dialog (run : Run) (input : Input) :
    (run.step input).dialog =
      match input with
      | .press key => run.dialog.press key
      | .resize pane => run.dialog.resize pane
      | .take =>
        match run.channel with
        | [] => run.dialog
        | reply :: _ => run.dialog.receive (reply.outcome run.dialog.client)
      | .answer .. | .post _ => run.dialog := by
  cases input with
  | press key => rw [step, press_eq]
  | resize pane => rfl
  | answer place delivery =>
      rw [step, Run.answer]
      split <;> rfl
  | post place =>
      rw [step, Run.post]
      split
      · rfl
      · split <;> rfl
  | take =>
      rw [step, Run.take]
      cases run.channel <;> rfl

theorem Moves.client_eq {run next : Run} {input : Input} (moves : run.Moves input next) :
    next.dialog.client = run.dialog.client := by
  cases moves with
  | press key => exact press_client key _
  | take held => exact receive_client _ _
  | _ => rfl

theorem Moves.started_eq {run next : Run} {input : Input} (moves : run.Moves input next) :
    next.started =
      run.started ++
        match input with
        | .press key => (run.dialog.call? key).toList
        | _ => [] := by
  cases moves with
  | press key => rfl
  | idle noKey =>
      cases input with
      | press key => exact absurd rfl (noKey key)
      | _ => exact (List.append_nil _).symm
  | _ => exact (List.append_nil _).symm

@[simp]
theorem replay_client (inputs : List Input) (run : Run) :
    (run.replay inputs).dialog.client = run.dialog.client :=
  replay_induction (motive := fun next => next.dialog.client = run.dialog.client)
    (fun next input same => (moves_step next input).client_eq.trans same) inputs rfl

end Run
end ProfileClient.Dialog
