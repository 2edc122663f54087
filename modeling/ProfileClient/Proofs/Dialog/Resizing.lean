import ProfileClient.Dialog.Basic
import ProfileClient.Proofs.Text.Wrapping
/-!
The scroll under changes of the pane's size. A larger pane leaves no more to scroll. Each size pulls
the scroll back to its own bound and never moves it on, so only the least bound counts in the end.
-/
namespace ProfileClient.Dialog

def resizeAll (panes : List Size) (dialog : Dialog) : Dialog :=
  panes.foldl (fun dialog pane => dialog.resize pane) dialog

section Sizes
variable (dialog : Dialog)

theorem resize_maxScroll (pane : Size) :
    (dialog.resize pane).maxScroll =
      min ((dialog.rows pane.width).length - pane.height) lastRow := rfl

theorem resize_scroll (pane : Size) :
    (dialog.resize pane).scroll = min dialog.scroll (dialog.resize pane).maxScroll := rfl

theorem resize_resize_maxScroll (first pane : Size) :
    ((dialog.resize first).resize pane).maxScroll = (dialog.resize pane).maxScroll := rfl

theorem resize_maxScroll_le {small large : Size} (width : small.width ≤ large.width)
    (height : small.height ≤ large.height) :
    (dialog.resize large).maxScroll ≤ (dialog.resize small).maxScroll := by
  have rows : (dialog.rows large.width).length ≤ (dialog.rows small.width).length :=
    Text.length_wrap_le_of_le _ width
  rw [resize_maxScroll, resize_maxScroll]
  omega

theorem resizeAll_scroll (panes : List Size) :
    (dialog.resizeAll panes).scroll =
      (panes.map fun pane => (dialog.resize pane).maxScroll).foldl min dialog.scroll := by
  induction panes generalizing dialog with
  | nil => rfl
  | cons pane panes ih =>
      have later := ih (dialog.resize pane)
      simp only [resize_resize_maxScroll] at later
      rw [List.map_cons, List.foldl_cons, ← resize_scroll]
      exact later

end Sizes

/-- A pane that is at least as wide and as high as another has at most its greatest scroll. After
any sizes the scroll is the least of the one before and of the greatest scrolls of all of them,
whatever their order. -/
theorem scroll_least_of_sizes (dialog : Dialog) :
    (∀ small large : Size, small.width ≤ large.width → small.height ≤ large.height →
        (dialog.resize large).maxScroll ≤ (dialog.resize small).maxScroll) ∧
      ∀ panes : List Size,
        (dialog.scroll :: panes.map fun pane => (dialog.resize pane).maxScroll).min? =
            some (dialog.resizeAll panes).scroll ∧
          ∀ reordered : List Size, panes.Perm reordered →
            (dialog.resizeAll reordered).scroll = (dialog.resizeAll panes).scroll := by
  refine ⟨fun small large width height => dialog.resize_maxScroll_le width height, ?_⟩
  intro panes
  refine ⟨?_, fun reordered perm => ?_⟩
  · rw [List.min?_cons', resizeAll_scroll]
  · rw [resizeAll_scroll, resizeAll_scroll]
    exact (perm.map _).symm.foldl_op_eq

/-- Six rows in panes of several sizes, one without any cell. -/
theorem scroll_least_of_sizes_crossed :
    let session : Session := ⟨"", "", "A", some (.array [.null, .bool true])⟩
    let dialog : Dialog := { Dialog.start ⟨"", none, none, none, none⟩ with session, scroll := 9 }
    let panes : List Size := [⟨4, 3⟩, ⟨0, 0⟩, ⟨9, 2⟩]
    (dialog.resize ⟨4, 3⟩).maxScroll ≤ (dialog.resize ⟨0, 0⟩).maxScroll ∧
      (dialog.resizeAll panes).scroll = 2 ∧
      (dialog.resizeAll panes.reverse).scroll = (dialog.resizeAll panes).scroll := by
  intro session dialog panes
  obtain ⟨larger, least⟩ := scroll_least_of_sizes dialog
  exact ⟨larger ⟨0, 0⟩ ⟨4, 3⟩ (by decide) (by decide), by decide +kernel,
    (least panes).2 panes.reverse (List.reverse_perm panes).symm⟩

end ProfileClient.Dialog
