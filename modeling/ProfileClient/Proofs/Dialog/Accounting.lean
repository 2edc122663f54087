import Mathlib.Data.List.Perm.Subperm
import ProfileClient.Proofs.Dialog.Effects
/-!
The account of calls in flight. Each call started is at every moment in exactly one place: with the
backend, before the channel, in the channel, or taken in. The number that the dialog keeps counts
the first three.
-/
namespace ProfileClient.Dialog

def tasksOf (calls : List Call) : List Task := calls.mapIdx Task.mk

@[simp]
theorem length_tasksOf (calls : List Call) : (tasksOf calls).length = calls.length :=
  List.length_mapIdx

theorem tasksOf_append_toList (calls : List Call) (call : Option Call) :
    tasksOf (calls ++ call.toList) = tasksOf calls ++ call.toList.map (Task.mk calls.length) := by
  cases call with
  | none => simp
  | some call => exact List.mapIdx_concat

theorem mem_tasksOf_iff {calls : List Call} {task : Task} :
    task ∈ tasksOf calls ↔ calls[task.number]? = some task.call := by
  rcases task with ⟨number, call⟩
  simp only [tasksOf, List.mem_mapIdx, Task.mk.injEq, List.getElem?_eq_some_iff]
  constructor
  · rintro ⟨i, bound, rfl, same⟩
    exact ⟨bound, same⟩
  · rintro ⟨bound, same⟩
    exact ⟨number, bound, rfl, same⟩

theorem map_number_tasksOf (calls : List Call) :
    (tasksOf calls).map Task.number = List.range calls.length := by
  apply List.ext_getElem
  · simp
  · intro i first second
    simp [tasksOf]

/-- A member may move from its place in one list to the end of the next one. -/
theorem eraseIdx_append_perm {α : Type} {items : List α} {place : Nat} {item : α}
    (found : items[place]? = some item) (next others : List α) :
    (items.eraseIdx place ++ (next ++ item :: others)).Perm (items ++ (next ++ others)) := by
  obtain ⟨bound, rfl⟩ := List.getElem?_eq_some_iff.mp found
  rw [← List.append_assoc, ← List.append_assoc]
  refine List.perm_middle.trans ?_
  rw [← List.cons_append, ← List.cons_append]
  exact ((List.getElem_cons_eraseIdx_perm bound).append_right next).append_right others

namespace Run

/-- The tasks whose results the dialog waits for. -/
def outstanding (run : Run) : List Task :=
  run.pending ++ (run.replied ++ run.channel).map Reply.task

/-- The invariant of the account: a call is counted until it is taken in, and the outstanding tasks
and the ones taken in are, each once, the tasks of the calls started. -/
structure Balanced (run : Run) : Prop where
  counted : run.dialog.inFlight + run.applied.length = run.started.length
  tasks_perm : (run.outstanding ++ run.applied.map Reply.task).Perm (tasksOf run.started)
  channel_le : run.channel.length ≤ places

theorem start_balanced (settings : Settings) : (start settings).Balanced :=
  ⟨rfl, .refl _, Nat.zero_le _⟩

section Steps
variable {run next : Run}

theorem Balanced.length_outstanding (h : run.Balanced) :
    run.outstanding.length = run.dialog.inFlight := by
  have length := h.tasks_perm.length_eq
  rw [List.length_append, List.length_map, length_tasksOf, ← h.counted] at length
  exact Nat.add_right_cancel length

theorem Balanced.of_moves [Url.Domains] {input : Input} (h : run.Balanced)
    (moves : run.Moves input next) : next.Balanced := by
  have counted := h.counted
  have length := h.length_outstanding
  cases moves with
  | press key =>
      refine ⟨?_, ?_, h.channel_le⟩
      · simp only [press_inFlight, List.length_append]
        omega
      · simp only [tasksOf_append_toList, outstanding]
        refine .trans ?_ (h.tasks_perm.append_right _)
        simp only [outstanding, List.append_assoc]
        refine .append_left _ ?_
        rw [← List.append_assoc ((run.replied ++ run.channel).map Reply.task)]
        exact List.perm_append_comm
  | resize pane => exact ⟨h.counted, h.tasks_perm, h.channel_le⟩
  | answer delivery found =>
      refine ⟨h.counted, .trans (.append_right _ ?_) h.tasks_perm, h.channel_le⟩
      simpa [outstanding] using eraseIdx_append_perm found _ _
  | post found free =>
      refine ⟨h.counted, .trans (.append_right _ ?_) h.tasks_perm, ?_⟩
      · have moved := (eraseIdx_append_perm found run.channel []).map Reply.task
        rw [List.append_nil] at moved
        exact moved.append_left _
      · rw [List.length_append]
        exact free
  | @take reply rest held =>
      simp only [outstanding, held, List.length_append, List.length_map, List.length_cons] at length
      refine ⟨?_, ?_, ?_⟩
      · simp only [receive_inFlight, List.length_append, List.length_singleton]
        omega
      · refine .trans ?_ h.tasks_perm
        have last := List.perm_append_singleton reply.task
          (rest.map Reply.task ++ run.applied.map Reply.task)
        simpa [outstanding, held] using
          (last.append_left (run.replied.map Reply.task)).append_left run.pending
      · have bound := h.channel_le
        rw [held] at bound
        exact Nat.le_of_succ_le bound
  | idle => exact h

end Steps

theorem replay_balanced [Url.Domains] (settings : Settings) (inputs : List Input) :
    ((start settings).replay inputs).Balanced :=
  replay_induction (fun run input h => h.of_moves (moves_step run input)) inputs
    (start_balanced settings)

/-- The numbers of the calls whose results have not been taken in. -/
def unapplied (run : Run) : List Nat :=
  (List.range run.started.length).filter fun number =>
    number ∉ run.applied.map (·.task.number)

section Numbers
variable {run : Run}

theorem Balanced.numbers_perm (h : run.Balanced) :
    (run.outstanding.map Task.number ++ run.applied.map (·.task.number)).Perm
      (List.range run.started.length) := by
  have numbers := h.tasks_perm.map Task.number
  rw [map_number_tasksOf, List.map_append, List.map_map] at numbers
  exact numbers

theorem Balanced.numbers_nodup (h : run.Balanced) :
    (run.outstanding.map Task.number ++ run.applied.map (·.task.number)).Nodup :=
  h.numbers_perm.nodup_iff.mpr List.nodup_range

theorem Balanced.unapplied_perm (h : run.Balanced) :
    run.unapplied.Perm (run.outstanding.map Task.number) := by
  have disjoint := (List.nodup_append.mp h.numbers_nodup).2.2
  have filtered := h.numbers_perm.filter fun number =>
    decide (number ∉ run.applied.map (·.task.number))
  rw [List.filter_append] at filtered
  have kept : (run.outstanding.map Task.number).filter
      (fun number => decide (number ∉ run.applied.map (·.task.number))) =
        run.outstanding.map Task.number := by
    apply List.filter_eq_self.mpr
    intro number waited
    exact decide_eq_true fun applied => disjoint number waited number applied rfl
  have dropped : (run.applied.map (·.task.number)).filter
      (fun number => decide (number ∉ run.applied.map (·.task.number))) = [] := by
    apply List.filter_eq_nil_iff.mpr
    intro number applied
    simp [applied]
  rw [kept, dropped, List.append_nil] at filtered
  exact filtered.symm

theorem Balanced.inFlight_eq (h : run.Balanced) : run.dialog.inFlight = run.unapplied.length := by
  rw [h.unapplied_perm.length_eq, List.length_map, h.length_outstanding]

theorem Balanced.started_of_applied (h : run.Balanced) {reply : Reply}
    (applied : reply ∈ run.applied) :
    run.started[reply.task.number]? = some reply.task.call := by
  apply mem_tasksOf_iff.mp
  apply h.tasks_perm.mem_iff.mp
  exact List.mem_append_right _ (List.mem_map_of_mem applied)

theorem Balanced.inFlight_pos (h : run.Balanced) (held : run.channel ≠ []) :
    0 < run.dialog.inFlight := by
  have length := h.length_outstanding
  have held := List.length_pos_iff.mpr held
  simp only [outstanding, List.length_append, List.length_map] at length
  omega

theorem unapplied_eq_nil_iff :
    run.unapplied = [] ↔
      ∀ number < run.started.length, ∃ reply ∈ run.applied, reply.task.number = number := by
  simp [unapplied, List.filter_eq_nil_iff]

end Numbers

/-- The enter key on the login button, or on the profile button while a token is held. -/
def Starts (run : Run) (input : Input) : Prop :=
  input = .press .enter ∧
    (run.dialog.focus = .loginButton ∨
      (run.dialog.focus = .profileButton ∧ run.dialog.session.token ≠ ""))

theorem starts_press_iff {run : Run} {key : Key} :
    run.Starts (.press key) ↔ ∃ call, run.dialog.call? key = some call := by
  simp only [Starts, Input.press.injEq, call?_eq_some_iff]
  constructor
  · rintro ⟨rfl, focus | ⟨focus, token⟩⟩
    · exact ⟨_, rfl, .inl ⟨focus, rfl⟩⟩
    · exact ⟨_, rfl, .inr ⟨focus, token, rfl⟩⟩
  · rintro ⟨call, rfl, ⟨focus, -⟩ | ⟨focus, token, -⟩⟩
    · exact ⟨rfl, .inl focus⟩
    · exact ⟨rfl, .inr ⟨focus, token⟩⟩

theorem step_started [Url.Domains] (run : Run) (input : Input) :
    (run.Starts input → ∃ call, (run.step input).started = run.started ++ [call]) ∧
      (¬ run.Starts input → (run.step input).started = run.started) := by
  rw [(moves_step run input).started_eq]
  cases input with
  | press key =>
      cases call : run.dialog.call? key with
      | none => simp [starts_press_iff, call]
      | some call => simp [starts_press_iff, call]
  | _ => exact ⟨fun starts => (nomatch starts.1), fun _ => List.append_nil _⟩

/-- In every state of every run the dialog counts exactly the calls whose results it has not taken
in. No result is taken in twice, the count is zero once all of them are in, and it is never lowered
below zero. The channel never holds more than its places, however many calls are under way. Calls
are started by the two buttons alone, one for each press. -/
theorem inFlight_counts_unapplied [Url.Domains] (settings : Settings) (inputs : List Input) :
    let run := (start settings).replay inputs
    run.dialog.inFlight = run.unapplied.length ∧
      (∀ reply ∈ run.applied, run.started[reply.task.number]? = some reply.task.call) ∧
      (run.applied.map (·.task.number)).Nodup ∧
      (run.dialog.inFlight = 0 ↔
        ∀ number < run.started.length, ∃ reply ∈ run.applied, reply.task.number = number) ∧
      (run.channel ≠ [] → 0 < run.dialog.inFlight) ∧
      run.channel.length ≤ places ∧
      ∀ input,
        (run.Starts input → ∃ call, (run.step input).started = run.started ++ [call]) ∧
          (¬ run.Starts input → (run.step input).started = run.started) := by
  intro run
  have balanced : run.Balanced := replay_balanced settings inputs
  refine ⟨balanced.inFlight_eq, fun _ => balanced.started_of_applied,
    (List.nodup_append.mp balanced.numbers_nodup).2.1, ?_, balanced.inFlight_pos,
    balanced.channel_le, step_started run⟩
  rw [balanced.inFlight_eq, List.length_eq_zero_iff]
  exact unapplied_eq_nil_iff

end Run
end ProfileClient.Dialog
