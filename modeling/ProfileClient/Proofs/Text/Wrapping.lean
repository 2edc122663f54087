import Mathlib.Algebra.Order.BigOperators.Group.List
import Mathlib.Algebra.Order.Floor.Div
import Mathlib.GroupTheory.GroupAction.Ring
import ProfileClient.Proofs.Text.Rows
/-!
What wrapping makes of a text: the rows of its lines and no others, so no character is lost. Their
number is a sum over the lines, and a wider pane never needs more of them.
-/
namespace ProfileClient.Text

theorem Cut.length_rows {full : Nat} {line : List Char} {rows : List (List Char)}
    (cut : Cut full line rows) (positive : 0 < full) :
    rows.length = max 1 (line.length ⌈/⌉ full) := by
  induction cut with
  | blank => simp
  | @last row _ fits =>
      have one : row.length ⌈/⌉ full ≤ 1 := by rwa [ceilDiv_le_iff_le_mul positive, Nat.mul_one]
      exact (Nat.max_eq_left one).symm
  | @next row rest rows exact written _ ih =>
      have more : 1 ≤ rest.length ⌈/⌉ full := by
        rw [Nat.ceilDiv_eq_add_pred_div, Nat.le_div_iff_mul_le positive]
        have := List.length_pos_iff.mpr written
        omega
      have step : (row ++ rest).length ⌈/⌉ full = rest.length ⌈/⌉ full + 1 := by
        rw [Nat.ceilDiv_eq_add_pred_div, Nat.ceilDiv_eq_add_pred_div, List.length_append, exact,
          ← Nat.add_div_right _ positive]
        congr 1
        omega
      rw [List.length_cons, ih, step, Nat.max_eq_right more, Nat.max_eq_right (Nat.le_add_left ..)]

theorem wrap_eq_flatten (width : Nat) (text : List Char) :
    wrap width text = ((lines text).map (piecesOf width)).flatten := by
  rw [wrap, List.flatMap_def]

theorem cut_lines (width : Nat) (text : List Char) :
    List.Forall₂ (Cut (max width 1)) (lines text) ((lines text).map (piecesOf width)) := by
  rw [List.forall₂_map_right_iff, List.forall₂_same]
  exact fun line _ => cut_piecesOf width line

theorem length_wrap (width : Nat) (text : List Char) :
    (wrap width text).length =
      ((lines text).map fun line => max 1 (line.length ⌈/⌉ max width 1)).sum := by
  have rows : ∀ line, (piecesOf width line).length = max 1 (line.length ⌈/⌉ max width 1) :=
    fun line => (cut_piecesOf width line).length_rows (Nat.le_max_right ..)
  simp only [wrap_eq_flatten, List.length_flatten, List.map_map, Function.comp_def, rows]

/-- In a wider pane a text takes no more rows. -/
theorem length_wrap_le_of_le (text : List Char) {narrow wide : Nat} (le : narrow ≤ wide) :
    (wrap wide text).length ≤ (wrap narrow text).length := by
  have fewer : ∀ length : Nat, length ⌈/⌉ max wide 1 ≤ length ⌈/⌉ max narrow 1 := by
    intro length
    rw [ceilDiv_le_iff_le_mul (Nat.le_max_right ..)]
    calc length ≤ max narrow 1 * (length ⌈/⌉ max narrow 1) :=
          (ceilDiv_le_iff_le_mul (Nat.le_max_right ..)).mp (Nat.le_refl _)
      _ ≤ max wide 1 * (length ⌈/⌉ max narrow 1) :=
          Nat.mul_le_mul_right _ (max_le_max_right 1 le)
  rw [length_wrap, length_wrap]
  exact List.sum_le_sum fun line _ => max_le_max_left 1 (fewer line.length)

/-- Wrapping cuts the lines of a text into rows, and nothing else does: a row holds at most as many
characters as the pane is wide, all rows together are the lines together, and each line takes as
many rows as it needs, an empty one a single row. -/
theorem wrap_lossless_tight (width : Nat) (text : List Char) :
    let full := max width 1
    (∀ rows, wrap width text = rows ↔
        ∃ found parts, Lined text found ∧ List.Forall₂ (Cut full) found parts ∧
          parts.flatten = rows) ∧
      (∀ row ∈ wrap width text, row.length ≤ full) ∧
      ∃ found, Lined text found ∧ (wrap width text).flatten = found.flatten ∧
        (wrap width text).length =
          (found.map fun line => max 1 (line.length ⌈/⌉ full)).sum := by
  intro full
  refine ⟨fun rows => ⟨?_, ?_⟩, fun row mem => length_le_of_mem_wrap mem, ?_⟩
  · rintro rfl
    exact ⟨_, _, lined_lines text, cut_lines width text, (wrap_eq_flatten width text).symm⟩
  · rintro ⟨found, parts, lined, cut, rfl⟩
    rw [lined.eq_lines] at cut
    have alone : Relator.RightUnique (Cut full) := fun _ _ _ cut also => cut.unique also
    rw [wrap_eq_flatten, alone.forall₂ (cut_lines width text) cut]
  · exact ⟨lines text, lined_lines text, flatten_wrap width text, length_wrap width text⟩

end ProfileClient.Text
