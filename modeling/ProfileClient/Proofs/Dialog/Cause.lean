import ProfileClient.Proofs.Dialog.Draining
/-!
What a notice is about. A notice is set when a call starts, when a fetch is refused, and when an
outcome is taken in; the one shown is about the last of these.
-/
namespace ProfileClient.Dialog

/-- What sets a notice. -/
inductive Cause where
  | started (call : Call)
  /-- A fetch was asked for without a token. -/
  | refused
  | received (outcome : Outcome)

namespace Cause

def notice : Cause → Notice
  | .started (.login ..) => .loggingIn
  | .started (.profile _) => .fetchingProfile
  | .refused => .notLoggedIn
  | .received outcome => outcome.notice

def IsFailedCall : Cause → Prop
  | .received (.failed _) => True
  | _ => False

/-- There was no token to fetch with, or a login brought none. -/
def LacksToken : Cause → Prop
  | .refused => True
  | .received (.loggedIn response) => response.handsToken = false
  | _ => False

/-- Something was asked for and not obtained. -/
def IsFailure (cause : Cause) : Prop := cause.IsFailedCall ∨ cause.LacksToken

theorem LacksToken.not_isFailedCall {cause : Cause} (lacks : cause.LacksToken) :
    ¬ cause.IsFailedCall := by
  cases cause with
  | received outcome =>
      cases outcome with
      | loggedIn response => exact id
      | _ => exact lacks.elim
  | _ => exact id

theorem notice_of_lacksToken {cause : Cause} (lacks : cause.LacksToken) :
    cause.notice = .notLoggedIn ∨ cause.notice = .noToken := by
  cases cause with
  | started call => exact lacks.elim
  | refused => exact .inl rfl
  | received outcome =>
      cases outcome with
      | loggedIn response => exact .inr (if_neg (Bool.eq_false_iff.mp lacks))
      | _ => exact lacks.elim

theorem notice_of_isFailedCall {cause : Cause} (failed : cause.IsFailedCall) :
    ∃ error, cause.notice = .failed error := by
  cases cause with
  | received outcome =>
      cases outcome with
      | failed error => exact ⟨error, rfl⟩
      | _ => exact failed.elim
  | _ => exact failed.elim

/-- The notice after causes that set it one after the other. -/
theorem foldl_notice (causes : List Cause) (before : Option Notice) :
    causes.foldl (fun _ cause => some cause.notice) before =
      (causes.getLast?.map notice).or before := by
  induction causes generalizing before with
  | nil => rfl
  | cons cause causes ih =>
      rw [List.foldl_cons, ih, List.getLast?_cons]
      cases causes.getLast? <;> rfl

end Cause

/-- What a key sets the notice about. -/
def keyCause? (dialog : Dialog) (key : Key) : Option Cause :=
  match dialog.call? key with
  | some call => some (.started call)
  | none => if key = .enter ∧ dialog.focus = .profileButton then some .refused else none

theorem press_notice_eq (key : Key) (dialog : Dialog) :
    (dialog.press key).notice = ((dialog.keyCause? key).map Cause.notice).or dialog.notice := by
  cases key with
  | enter =>
      change dialog.enter.notice = _
      unfold enter keyCause? call?
      cases focus : dialog.focus with
      | profileButton =>
          simp only [startFetch]
          split <;> rfl
      | _ => rfl
  | backspace =>
      rw [press, edit_eq]
      rfl
  | char c =>
      rw [press, edit_eq]
      split <;> rfl
  | _ => rfl

theorem receive_notice (outcome : Outcome) (dialog : Dialog) :
    (dialog.receive outcome).notice = some outcome.notice :=
  congrArg Dialog.notice (receiveAll_eq_having [outcome] dialog)

namespace Run

def cause? [Url.Domains] (run : Run) : Input → Option Cause
  | .press key => run.dialog.keyCause? key
  | .take => run.channel.head?.map fun reply => .received (reply.outcome run.dialog.client)
  | _ => none

/-- What the inputs of a run set the notice about, the last of them at the end. -/
def causes [Url.Domains] (run : Run) (inputs : List Input) : List Cause :=
  collect (fun run input => (run.cause? input).toList) run inputs

theorem step_notice [Url.Domains] (run : Run) (input : Input) :
    (run.step input).dialog.notice =
      (run.cause? input).toList.foldl (fun _ cause => some cause.notice) run.dialog.notice := by
  rw [step_dialog]
  cases input with
  | press key =>
      change (run.dialog.press key).notice = (run.dialog.keyCause? key).toList.foldl _ _
      rw [press_notice_eq]
      cases run.dialog.keyCause? key <;> rfl
  | take =>
      rw [cause?]
      cases run.channel with
      | nil => rfl
      | cons reply rest => exact receive_notice ..
  | _ => rfl

/-- The notice shown is about the last thing that set one. -/
theorem replay_notice [Url.Domains] (settings : Settings) (inputs : List Input) :
    ((start settings).replay inputs).dialog.notice =
      ((start settings).causes inputs).getLast?.map Cause.notice := by
  rw [replay_eq_foldl (fun run => run.dialog.notice) step_notice, Cause.foldl_notice]
  exact Option.or_none

end Run
end ProfileClient.Dialog
