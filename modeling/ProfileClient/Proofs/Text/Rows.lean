import ProfileClient.Proofs.Text.Lines
/-!
Which rows show a line. `Cut` says it by their lengths, without an algorithm. A line has at least
one row, and its rows put together are the line; so a text has at least as many rows as feeds, and
its rows put together are its lines.
-/
namespace ProfileClient.Text

/-- A line and its rows. An empty line has a blank one. Any other line is cut into rows of `full`
characters; the last may be shorter, but is not blank. -/
inductive Cut (full : Nat) : List Char → List (List Char) → Prop
  | blank : Cut full [] [[]]
  | last {row : List Char} : row ≠ [] → row.length ≤ full → Cut full row [row]
  | next {row rest : List Char} {rows : List (List Char)} : row.length = full → rest ≠ [] →
      Cut full rest rows → Cut full (row ++ rest) (row :: rows)

theorem cut_piecesOnto (width : Nat) {line : List Char} (written : line ≠ []) :
    Cut (width + 1) line (piecesOnto width [] line) := by
  induction h : line.length using Nat.strongRecOn generalizing line with
  | ind length ih =>
      cases line with
      | nil => exact absurd rfl written
      | cons c rest =>
          rw [piecesOnto_cons]
          by_cases behind : rest.drop width = []
          · have short : rest.length ≤ width := List.drop_eq_nil_iff.mp behind
            rw [behind, List.take_of_length_le short, piecesOnto]
            exact .last written (Nat.succ_le_succ short)
          · have shorter : (rest.drop width).length < length := by
              rw [← h, List.length_drop, List.length_cons]
              omega
            have long : width < rest.length := by
              simpa [List.drop_eq_nil_iff] using behind
            have full : (c :: rest.take width).length = width + 1 := by
              rw [List.length_cons, List.length_take_of_le (Nat.le_of_lt long)]
            have cut := Cut.next full behind (ih _ shorter behind rfl)
            rwa [List.cons_append, List.take_append_drop] at cut

theorem cut_piecesOf (width : Nat) (line : List Char) :
    Cut (max width 1) line (piecesOf width line) := by
  have full : max width 1 = width - 1 + 1 := by omega
  unfold piecesOf
  split
  · next empty =>
      rw [List.isEmpty_iff.mp empty]
      exact .blank
  · next written =>
      rw [full]
      exact cut_piecesOnto _ (by simpa using written)

namespace Cut
variable {full : Nat} {line : List Char} {rows : List (List Char)}

theorem ne_nil (cut : Cut full line rows) : rows ≠ [] := by
  cases cut <;> exact List.cons_ne_nil _ _

theorem flatten_eq (cut : Cut full line rows) : rows.flatten = line := by
  induction cut with
  | blank => rfl
  | last => exact List.flatten_singleton
  | next _ _ _ ih => rw [List.flatten_cons, ih]

theorem length_le (cut : Cut full line rows) : ∀ row ∈ rows, row.length ≤ full := by
  induction cut with
  | blank => simp
  | last _ fits => simpa using fits
  | next exact _ _ ih =>
      intro row mem
      rcases List.mem_cons.mp mem with rfl | mem
      · exact Nat.le_of_eq exact
      · exact ih row mem

/-- What the length of a line says about its rows. -/
theorem rows_eq (cut : Cut full line rows) :
    (line.length ≤ full ∧ rows = [line]) ∨
      (full < line.length ∧
        ∃ others, rows = line.take full :: others ∧ Cut full (line.drop full) others) := by
  cases cut with
  | blank => exact .inl ⟨Nat.zero_le _, rfl⟩
  | last _ fits => exact .inl ⟨fits, rfl⟩
  | @next row rest others exact written behind =>
      have long : 0 < rest.length := List.length_pos_iff.mpr written
      refine .inr ⟨by rw [List.length_append]; omega, others, ?_, ?_⟩
      · rw [List.take_left' exact]
      · rwa [List.drop_left' exact]

/-- A line has one list of rows only. -/
theorem unique {other : List (List Char)} (cut : Cut full line rows)
    (also : Cut full line other) : rows = other := by
  induction cut generalizing other with
  | blank =>
      obtain ⟨-, rfl⟩ | ⟨long, -⟩ := also.rows_eq
      · rfl
      · exact absurd long (Nat.not_lt_zero _)
  | last _ fits =>
      obtain ⟨-, rfl⟩ | ⟨long, -⟩ := also.rows_eq
      · rfl
      · exact absurd long (Nat.not_lt.mpr fits)
  | @next row rest rows exact written _ ih =>
      have long : 0 < rest.length := List.length_pos_iff.mpr written
      obtain ⟨short, -⟩ | ⟨-, others, rfl, behind⟩ := also.rows_eq
      · rw [List.length_append] at short
        omega
      · rw [List.drop_left' exact] at behind
        rw [List.take_left' exact, ih behind]

end Cut

theorem flatten_wrap (width : Nat) (text : List Char) :
    (wrap width text).flatten = (lines text).flatten := by
  unfold wrap
  induction lines text with
  | nil => rfl
  | cons line rest ih =>
      rw [List.flatMap_cons, List.flatten_append, ih, (cut_piecesOf width line).flatten_eq,
        List.flatten_cons]

theorem length_lines_le_length_wrap (width : Nat) (text : List Char) :
    (lines text).length ≤ (wrap width text).length := by
  unfold wrap
  induction lines text with
  | nil => exact Nat.le_refl _
  | cons line rest ih =>
      have row := List.length_pos_iff.mpr (cut_piecesOf width line).ne_nil
      rw [List.flatMap_cons, List.length_append, List.length_cons]
      omega

theorem count_le_length_wrap (width : Nat) (text : List Char) :
    text.count '\n' ≤ (wrap width text).length :=
  Nat.le_trans (lined_lines text).count_le_length (length_lines_le_length_wrap width text)

theorem wrap_ne_nil (width : Nat) {text : List Char} (written : text ≠ []) :
    wrap width text ≠ [] := by
  have line := List.length_pos_iff.mpr (lines_ne_nil written)
  have rows := length_lines_le_length_wrap width text
  exact List.length_pos_iff.mp (Nat.lt_of_lt_of_le line rows)

theorem length_le_of_mem_wrap {width : Nat} {text row : List Char} (mem : row ∈ wrap width text) :
    row.length ≤ max width 1 := by
  obtain ⟨line, -, inside⟩ := List.mem_flatMap.mp mem
  exact (cut_piecesOf width line).length_le row inside

end ProfileClient.Text
