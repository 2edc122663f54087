import ProfileClient.Proofs.Dialog.Loading
import ProfileClient.Proofs.Dialog.Scrolling
/-!
Which rows of the profile the keys bring into view. The keys scroll by whole pages from the top or
from the end, so the scroll stops only at whole pages from one of the two. A pane of at least a page
shows every row between two stops; a lower one may miss some, whatever keys are pressed.
-/
namespace ProfileClient.Dialog

def scrollKeys : List Key := [.pageDown, .pageUp, .home, .last]

def pressAll (keys : List Key) (dialog : Dialog) : Dialog :=
  keys.foldl (fun dialog key => dialog.press key) dialog

/-- A row of the profile lies in the pane. -/
def InView (dialog : Dialog) (row : Nat) : Prop :=
  dialog.scroll ≤ row ∧ row < dialog.scroll + dialog.pane.height

section Keys
variable (keys : List Key) (dialog : Dialog)

theorem pressAll_pane : (dialog.pressAll keys).pane = dialog.pane := by
  induction keys generalizing dialog with
  | nil => rfl
  | cons key keys ih => exact (ih (dialog.press key)).trans (press_keeps key dialog).2.2.2

theorem pressAll_maxScroll : (dialog.pressAll keys).maxScroll = dialog.maxScroll := by
  induction keys generalizing dialog with
  | nil => rfl
  | cons key keys ih => exact (ih (dialog.press key)).trans (press_maxScroll key dialog)

theorem pressAll_inView_iff {row : Nat} :
    (dialog.pressAll keys).InView row ↔
      (dialog.pressAll keys).scroll ≤ row ∧
        row < (dialog.pressAll keys).scroll + dialog.pane.height := by
  rw [InView, pressAll_pane]

end Keys

/-- A scroll of whole pages from the top, or from the greatest one. -/
structure Stop (greatest scroll : Nat) : Prop where
  le : scroll ≤ greatest
  whole : page ∣ scroll ∨ page ∣ greatest - scroll

theorem stop_zero (greatest : Nat) : Stop greatest 0 := ⟨Nat.zero_le _, .inl (Nat.dvd_zero _)⟩

theorem stop_greatest (greatest : Nat) : Stop greatest greatest :=
  ⟨Nat.le_refl _, .inr (by rw [Nat.sub_self]; exact Nat.dvd_zero _)⟩

theorem Stop.down {greatest scroll : Nat} (stop : Stop greatest scroll) :
    Stop greatest (min (scroll + page) greatest) := by
  obtain ⟨le, whole⟩ := stop
  refine ⟨Nat.min_le_right .., ?_⟩
  unfold page at whole ⊢
  omega

theorem Stop.up {greatest scroll : Nat} (stop : Stop greatest scroll) :
    Stop greatest (scroll - page) := by
  obtain ⟨le, whole⟩ := stop
  refine ⟨Nat.le_trans (Nat.sub_le ..) le, ?_⟩
  unfold page at whole ⊢
  omega

theorem Stop.press {dialog : Dialog} (stop : Stop dialog.maxScroll dialog.scroll) (key : Key) :
    Stop (dialog.press key).maxScroll (dialog.press key).scroll := by
  rw [press_maxScroll, press_scroll]
  cases key with
  | pageDown => exact stop.down
  | pageUp => exact stop.up
  | home => exact stop_zero _
  | last => exact stop_greatest _
  | _ => exact stop

theorem Stop.pressAll {dialog : Dialog} (stop : Stop dialog.maxScroll dialog.scroll)
    (keys : List Key) :
    Stop (dialog.pressAll keys).maxScroll (dialog.pressAll keys).scroll := by
  induction keys generalizing dialog with
  | nil => exact stop
  | cons key keys ih => exact ih (stop.press key)

theorem pageDowns_scroll {dialog : Dialog} (bounded : dialog.Bounded) (count : Nat) :
    (dialog.pressAll (List.replicate count .pageDown)).scroll =
      min (dialog.scroll + page * count) dialog.maxScroll := by
  induction count generalizing dialog with
  | zero => exact (Nat.min_eq_left bounded).symm
  | succ count ih =>
      have next := ih (bounded.press .pageDown)
      rw [press_maxScroll, press_scroll] at next
      rw [List.replicate_succ]
      refine next.trans ?_
      rw [Nat.mul_succ]
      dsimp only
      omega

theorem pageUps_scroll (dialog : Dialog) (count : Nat) :
    (dialog.pressAll (List.replicate count .pageUp)).scroll = dialog.scroll - page * count := by
  induction count generalizing dialog with
  | zero => rfl
  | succ count ih =>
      have next := ih (dialog.press .pageUp)
      rw [press_scroll] at next
      rw [List.replicate_succ]
      refine next.trans ?_
      rw [Nat.mul_succ]
      dsimp only
      omega

/-- From the top the scroll keys lead to the stops and to no other scroll. -/
theorem exists_keys_iff_stop (dialog : Dialog) (scroll : Nat) :
    (∃ keys, (∀ key ∈ keys, key ∈ scrollKeys) ∧
        (dialog.scrollToTop.pressAll keys).scroll = scroll) ↔
      Stop dialog.maxScroll scroll := by
  constructor
  · rintro ⟨keys, -, rfl⟩
    have stop := (stop_zero dialog.scrollToTop.maxScroll).pressAll keys
    rwa [pressAll_maxScroll] at stop
  · rintro ⟨le, ⟨count, rfl⟩ | ⟨count, rest⟩⟩
    · refine ⟨List.replicate count .pageDown, ?_, ?_⟩
      · intro key mem
        rw [List.eq_of_mem_replicate mem]
        decide
      · have top : dialog.scrollToTop.Bounded := Nat.zero_le _
        rw [pageDowns_scroll top]
        exact (congrArg (min · _) (Nat.zero_add _)).trans (Nat.min_eq_left le)
    · refine ⟨.last :: List.replicate count .pageUp, ?_, ?_⟩
      · intro key mem
        rcases List.mem_cons.mp mem with rfl | mem
        · decide
        · rw [List.eq_of_mem_replicate mem]
          decide
      · have up := pageUps_scroll (dialog.scrollToTop.press .last) count
        refine up.trans ?_
        rw [← rest]
        exact Nat.sub_sub_self le

theorem stop_iff_exists_count {greatest scroll : Nat} :
    Stop greatest scroll ↔
      ∃ count, page * count ≤ greatest ∧
        (scroll = page * count ∨ scroll = greatest - page * count) := by
  constructor
  · rintro ⟨le, ⟨count, rfl⟩ | ⟨count, rest⟩⟩
    · exact ⟨count, le, .inl rfl⟩
    · exact ⟨count, by omega, .inr (by omega)⟩
  · rintro ⟨count, le, rfl | rfl⟩
    · exact ⟨le, .inl ⟨count, rfl⟩⟩
    · exact ⟨Nat.sub_le .., .inr ⟨count, Nat.sub_sub_self le⟩⟩

/-- From the top the scroll keys lead to the tens counted from the top and from the greatest scroll,
and nowhere else. Wherever keys have led, each page down adds ten as far as the greatest scroll and
each page up takes ten as far as the top. These are sums of integers: none is cut off at the last
number of a row. -/
theorem scrolls_of_keys_exact (dialog : Dialog) :
    let greatest := dialog.maxScroll
    (∀ scroll, (∃ keys, (∀ key ∈ keys, key ∈ scrollKeys) ∧
          (dialog.scrollToTop.pressAll keys).scroll = scroll) ↔
        ∃ count, 10 * count ≤ greatest ∧
          (scroll = 10 * count ∨ scroll = greatest - 10 * count)) ∧
      ∀ keys count,
        let reached := dialog.scrollToTop.pressAll keys
        reached.scroll ≤ lastRow ∧
          ((reached.pressAll (.replicate count .pageDown)).scroll : Int) =
            min ((reached.scroll : Int) + 10 * count) greatest ∧
          ((reached.pressAll (.replicate count .pageUp)).scroll : Int) =
            max ((reached.scroll : Int) - 10 * count) 0 := by
  intro greatest
  refine ⟨fun scroll => (exists_keys_iff_stop dialog scroll).trans stop_iff_exists_count, ?_⟩
  intro keys count reached
  have bounded : reached.Bounded :=
    ((stop_zero dialog.scrollToTop.maxScroll).pressAll keys).le
  have bound : reached.maxScroll = greatest := pressAll_maxScroll keys dialog.scrollToTop
  have down := pageDowns_scroll bounded count
  have up := pageUps_scroll reached count
  rw [bound, page] at down
  rw [page] at up
  refine ⟨Nat.le_trans bounded reached.maxScroll_le_lastRow, ?_, ?_⟩
  · rw [down]
    omega
  · rw [up]
    omega

theorem exists_keys_inView_iff (dialog : Dialog) (row : Nat) :
    (∃ keys, (∀ key ∈ keys, key ∈ scrollKeys) ∧
        (dialog.scrollToTop.pressAll keys).InView row) ↔
      ∃ scroll, Stop dialog.maxScroll scroll ∧ scroll ≤ row ∧
        row < scroll + dialog.pane.height := by
  constructor
  · rintro ⟨keys, known, view⟩
    rw [pressAll_inView_iff] at view
    exact ⟨_, (exists_keys_iff_stop dialog _).mp ⟨keys, known, rfl⟩, view⟩
  · rintro ⟨scroll, stop, view⟩
    obtain ⟨keys, known, rfl⟩ := (exists_keys_iff_stop dialog scroll).mpr stop
    exact ⟨keys, known, (pressAll_inView_iff keys dialog.scrollToTop).mpr view⟩

section Rows
variable {rows height greatest : Nat}

/-- A row behind the last stop is shown there, and one before it at the stop that precedes it: the
last whole page from the top, or from the end. -/
theorem exists_stop_of_reaches (last : rows ≤ greatest + height)
    (low : greatest % page ≤ height) (high : greatest < page ∨ page ≤ greatest % page + height)
    {row : Nat} (within : row < rows) :
    ∃ scroll, Stop greatest scroll ∧ scroll ≤ row ∧ row < scroll + height := by
  unfold page at low high
  by_cases behind : greatest ≤ row
  · exact ⟨greatest, stop_greatest greatest, behind, by omega⟩
  · by_cases near : row % 10 < height
    · exact ⟨row - row % 10, ⟨by omega, .inl (by unfold page; omega)⟩, by omega, by omega⟩
    · exact ⟨row - row % 10 + greatest % 10, ⟨by omega, .inr (by unfold page; omega)⟩, by omega,
        by omega⟩

theorem reaches_of_forall_exists_stop (bound : greatest = min (rows - height) lastRow)
    (written : 0 < rows)
    (shown : ∀ row < rows, ∃ scroll, Stop greatest scroll ∧ scroll ≤ row ∧ row < scroll + height) :
    rows ≤ lastRow + height ∧ greatest % page ≤ height ∧
      (greatest < page ∨ page ≤ greatest % page + height) := by
  unfold page
  refine ⟨?_, ?_, ?_⟩
  · obtain ⟨scroll, stop, -, below⟩ := shown (rows - 1) (by omega)
    have le := stop.le
    omega
  · by_contra gap
    obtain ⟨scroll, ⟨le, whole⟩, above, below⟩ := shown height (by omega)
    unfold page at whole
    omega
  · by_contra gap
    obtain ⟨scroll, ⟨le, whole⟩, above, below⟩ := shown 9 (by omega)
    unfold page at whole
    omega

end Rows

/-- The keys can bring every row into view just if the end of the profile can be reached, and the
panes that start at whole pages from the top and from the end leave no row between them. So a pane
of at least a page misses none, and a lower one only if the two kinds of stop lie well apart. -/
theorem every_row_shown_iff (dialog : Dialog) :
    (∀ row < (dialog.rows dialog.pane.width).length, ∃ keys, (∀ key ∈ keys, key ∈ scrollKeys) ∧
        (dialog.scrollToTop.pressAll keys).InView row) ↔
      (dialog.rows dialog.pane.width).length ≤ lastRow + dialog.pane.height ∧
        dialog.maxScroll % page ≤ dialog.pane.height ∧
        (dialog.maxScroll < page ∨ page ≤ dialog.maxScroll % page + dialog.pane.height) := by
  simp only [exists_keys_inView_iff]
  constructor
  · exact reaches_of_forall_exists_stop rfl (List.length_pos_iff.mpr (dialog.rows_ne_nil _))
  · rintro ⟨long, low, high⟩ row within
    refine exists_stop_of_reaches ?_ low high within
    rw [maxScroll]
    omega

attribute [local instance] Url.Domains.ascii

/-- A profile of twelve rows in a pane of three: the scroll stops at 0 and at 9, so the rows from 3
to 8 are never shown. -/
theorem row_missed_of_low_pane :
    let dialog := ((Run.start ⟨"http://localhost:8000", some "ada@example.org", none, none,
      none⟩).replay
      (Run.loading (.answered ⟨200, "\x7b\"access_token\":\"A\"\x7d".toUTF8.data.toList, false⟩)
        (.answered ⟨200, "[0,1,2,3,4,5,6,7,8,9]".toUTF8.data.toList, false⟩) ++
        [.resize ⟨78, 3⟩])).dialog
    1 ≤ dialog.pane.height ∧ (dialog.rows dialog.pane.width).length ≤ 65535 ∧
      5 < (dialog.rows dialog.pane.width).length ∧
      ∀ keys, (∀ key ∈ keys, key ∈ scrollKeys) →
        ¬ (dialog.scrollToTop.pressAll keys).InView 5 := by
  intro dialog
  have height : dialog.pane.height = 3 := by decide +kernel
  have rows : (dialog.rows dialog.pane.width).length = 12 := by decide +kernel
  have greatest : dialog.maxScroll = 9 := by
    rw [maxScroll, rows, height]
    rfl
  refine ⟨by omega, by omega, by omega, ?_⟩
  intro keys known view
  obtain ⟨scroll, ⟨le, whole⟩, above, below⟩ :=
    (exists_keys_inView_iff dialog 5).mp ⟨keys, known, view⟩
  unfold page at whole
  omega

end ProfileClient.Dialog
