import ProfileClient.Proofs.Dialog.Effects
import ProfileClient.Proofs.Json.Written
import ProfileClient.Proofs.Text.Rows
/-!
The scroll of the profile stays within the bound that the profile and the pane set. A key moves it
between the top and that bound, a new size pulls it back, and a new profile starts at the top.
-/
namespace ProfileClient.Dialog

section Bound
variable {dialog next : Dialog}

theorem rows_congr (profile : next.session.profile = dialog.session.profile) (width : Nat) :
    next.rows width = dialog.rows width := by
  rw [rows, rows, Session.profileText, Session.profileText, profile]

theorem maxScroll_congr (profile : next.session.profile = dialog.session.profile)
    (pane : next.pane = dialog.pane) : next.maxScroll = dialog.maxScroll := by
  rw [maxScroll, maxScroll, pane, rows_congr profile]

end Bound

theorem rows_ne_nil (dialog : Dialog) (width : Nat) : dialog.rows width ≠ [] := by
  apply Text.wrap_ne_nil
  unfold Session.profileText
  cases dialog.session.profile with
  | none => decide
  | some profile =>
      intro empty
      obtain ⟨c, rest, written, -⟩ := Json.printAt_head .indented 0 profile
      change profile.pretty.toList = [] at empty
      rw [Json.pretty, String.toList_ofList, written] at empty
      cases empty

theorem press_maxScroll (key : Key) (dialog : Dialog) :
    (dialog.press key).maxScroll = dialog.maxScroll :=
  maxScroll_congr (press_profile key dialog) (press_keeps key dialog).2.2.2

/-- The keys that scroll, and where to. -/
theorem press_scroll (key : Key) (dialog : Dialog) :
    (dialog.press key).scroll =
      match key with
      | .pageDown => min (dialog.scroll + page) dialog.maxScroll
      | .pageUp => dialog.scroll - page
      | .home => 0
      | .last => dialog.maxScroll
      | _ => dialog.scroll := by
  cases key with
  | enter => rw [press, enter_eq]
  | backspace => rw [press, edit_eq]
  | char c =>
      rw [press, edit_eq]
      split <;> rfl
  | pageDown => exact scrollDown_scroll page dialog
  | _ => rfl

def Bounded (dialog : Dialog) : Prop := dialog.scroll ≤ dialog.maxScroll

theorem Bounded.press {dialog : Dialog} (bounded : dialog.Bounded) (key : Key) :
    (dialog.press key).Bounded := by
  unfold Bounded at bounded ⊢
  rw [press_maxScroll, press_scroll]
  cases key with
  | pageDown => exact Nat.min_le_right ..
  | pageUp => exact Nat.le_trans (Nat.sub_le ..) bounded
  | home => exact Nat.zero_le _
  | last => exact Nat.le_refl _
  | _ => exact bounded

theorem resize_bounded (pane : Size) (dialog : Dialog) : (dialog.resize pane).Bounded :=
  Nat.min_le_right ..

theorem Bounded.receive {dialog : Dialog} (bounded : dialog.Bounded) (outcome : Outcome) :
    (dialog.receive outcome).Bounded := by
  cases outcome with
  | loggedIn response =>
      simp only [Dialog.receive]
      split <;> exact bounded
  | profile body => exact Nat.zero_le _
  | failed error => exact bounded

namespace Run

theorem Moves.bounded [Url.Domains] {run next : Run} {input : Input} (moves : run.Moves input next)
    (bounded : run.dialog.Bounded) : next.dialog.Bounded := by
  cases moves with
  | press key => exact bounded.press key
  | resize pane => exact resize_bounded pane _
  | take held => exact bounded.receive _
  | _ => exact bounded

theorem replay_bounded [Url.Domains] (settings : Settings) (inputs : List Input) :
    ((start settings).replay inputs).dialog.Bounded :=
  replay_induction (fun run input bounded => (moves_step run input).bounded bounded) inputs
    (Nat.zero_le _)

end Run
end ProfileClient.Dialog
