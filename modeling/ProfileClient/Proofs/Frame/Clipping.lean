import ProfileClient.Proofs.Frame.Canvas
import ProfileClient.Proofs.Frame.Window
import ProfileClient.Proofs.Text.Wrapping
/-!
What the right edge of the pane cuts off. Rows are cut after so many characters as the pane has
columns, and the pane is filled column by column; so a row with wide characters may not fit. It is
drawn whole just if it does.
-/
namespace ProfileClient.Frame

/-- The columns that all of a line would take. -/
def Line.columns (line : Line) : Nat := (line.glyphs.map (·.columns)).sum

/-- Within the width everything of a line is drawn that takes a column. -/
def Line.Whole (width : Nat) (line : Line) : Prop :=
  fitting width 0 line.glyphs = line.glyphs.filter (·.columns ≠ 0)

theorem length_fitting_le (width x : Nat) (glyphs : List Glyph) :
    (fitting width x glyphs).length ≤ (glyphs.filter (·.columns ≠ 0)).length := by
  induction glyphs generalizing x with
  | nil => exact Nat.le_refl _
  | cons glyph rest ih =>
      have more := (List.sublist_cons_self glyph rest).filter (·.columns ≠ 0)
      unfold fitting
      split_ifs with wide beyond empty
      · exact Nat.le_trans (ih x) more.length_le
      · exact Nat.zero_le _
      · exact Nat.le_trans (ih x) more.length_le
      · rw [List.filter_cons_of_pos (by simpa using empty)]
        exact Nat.succ_le_succ (ih _)

theorem fitting_eq_filter_iff {width x : Nat} (inside : x ≤ width) (glyphs : List Glyph) :
    fitting width x glyphs = glyphs.filter (·.columns ≠ 0) ↔
      x + (glyphs.map (·.columns)).sum ≤ width := by
  induction glyphs generalizing x with
  | nil => simpa [fitting] using inside
  | cons glyph rest ih =>
      rw [List.map_cons, List.sum_cons]
      unfold fitting
      split_ifs with wide beyond empty
      · rw [List.filter_cons_of_pos (by simp; omega)]
        constructor
        · intro whole
          have fewer := length_fitting_le width x rest
          rw [whole, List.length_cons] at fewer
          omega
        · omega
      · rw [List.filter_cons_of_pos (by simp; omega)]
        constructor
        · intro whole
          cases whole
        · omega
      · rw [List.filter_cons_of_neg (by simpa using empty), ih inside, empty, Nat.zero_add]
      · rw [List.filter_cons_of_pos (by simpa using empty), List.cons.injEq,
          ih (by omega), Nat.add_assoc]
        exact and_iff_right rfl

theorem Line.whole_iff {width : Nat} {line : Line} : line.Whole width ↔ line.columns ≤ width := by
  rw [Whole, fitting_eq_filter_iff (Nat.zero_le _), Nat.zero_add, columns]

theorem glyphs_plainLine (row : List Char) :
    (plainLine row).glyphs = ((Text.clusters row).filter (· ≠ ['\n'])).map fun symbol =>
      ⟨symbol, Text.columns symbol, .plain⟩ := by
  simp [plainLine, Line.glyphs]

theorem columns_plainLine (row : List Char) :
    (plainLine row).columns =
      (((Text.clusters row).filter (· ≠ ['\n'])).map Text.columns).sum := by
  rw [Line.columns, glyphs_plainLine, List.map_map]
  rfl

theorem columns_plainLine_le (row : List Char) :
    (plainLine row).columns ≤ Text.looseColumns row := by
  have part := (List.filter_sublist (p := (· ≠ ['\n'])) (l := Text.clusters row)).map Text.columns
  rw [columns_plainLine]
  exact Nat.le_trans (part.sum_le_sum fun _ _ => Nat.zero_le _) (Text.sum_columns_le row)

theorem columns_plainLine_of_standsAlone {row : List Char}
    (alone : ∀ c ∈ row, Text.StandsAlone c) :
    (plainLine row).columns = (row.map Text.charColumns).sum := by
  rw [plainLine, Line.columns, Line.glyphs_of_standsAlone .plain alone, List.map_map]
  rfl

/-- A row of the profile is drawn whole just if its columns fit the pane. They do if none of its
characters is wide. Where its characters join no others, they do just if the columns of the
characters together fit. -/
theorem rows_whole_iff (dialog : Dialog) (width : Nat) (visible : 1 ≤ width) :
    ∀ row ∈ dialog.rows width,
      ((plainLine row).Whole width ↔ (plainLine row).columns ≤ width) ∧
        ((∀ c ∈ row, Text.charColumns c ≤ 1) → (plainLine row).Whole width) ∧
        ((∀ c ∈ row, Text.StandsAlone c) →
          ((plainLine row).Whole width ↔ (row.map Text.charColumns).sum ≤ width)) := by
  intro row mem
  refine ⟨Line.whole_iff, fun narrow => ?_, fun alone => ?_⟩
  · have short : row.length ≤ max width 1 := Text.length_le_of_mem_wrap mem
    rw [Line.whole_iff]
    calc (plainLine row).columns ≤ Text.looseColumns row := columns_plainLine_le row
      _ = row.length := Text.looseColumns_of_narrow narrow
      _ ≤ width := by omega
  · rw [Line.whole_iff, columns_plainLine_of_standsAlone alone]

/-- A name in wide characters with enough cells left free behind it. -/
theorem rows_whole_iff_wide_name :
    let session : Session := ⟨"", "", "A", some (.object [("name", .string "天地")])⟩
    let dialog : Dialog := { Dialog.start ⟨"", none, none, none, none⟩ with session }
    let row := "  \"name\": \"天地\"".toList
    row ∈ dialog.rows 16 ∧ row.length = 14 ∧ (plainLine row).Whole 16 := by
  intro session dialog row
  have mem : row ∈ dialog.rows 16 := by decide +kernel
  have all : row.all (fun c => Text.StandsAlone c) = true := by decide +kernel
  have alone : ∀ c ∈ row, Text.StandsAlone c := by
    simpa only [List.all_eq_true, decide_eq_true_eq] using all
  refine ⟨mem, by decide, ((rows_whole_iff dialog 16 (by decide) row mem).2.2 alone).mpr ?_⟩
  decide +kernel

attribute [local instance] Url.Domains.ascii

/-- A name of nine wide characters in a pane of 20 columns: its row takes 29 columns, and its
seventh character is drawn in no row. -/
theorem character_cut_of_wide_row :
    let profile : Json := .object [("name", .string "天地玄黃宇宙洪荒日")]
    let dialog := ((Dialog.Run.start filledSettings).replay (toEnd profile ⟨22, 20⟩)).dialog
    let width := dialog.pane.width
    dialog.pane = (pane ⟨22, 20⟩).size ∧ 2 ≤ width ∧
      (∃ row ∈ dialog.rows width, width < (plainLine row).columns) ∧
      '洪' ∈ dialog.session.profileText.toList ∧
      ∀ row ∈ dialog.rows width, ∀ glyph ∈ fitting width 0 (plainLine row).glyphs,
        '洪' ∉ glyph.symbol := by
  intro profile
  have orderly : Json.Orderly Json.deepest profile := by
    refine .object (by decide) ?_
    simp only [List.mem_singleton, forall_eq]
    exact .string _
  have integral : profile.Integral := by
    refine .object ?_
    simp only [List.mem_singleton, forall_eq]
    exact .string _
  have reached := replay_toEnd ⟨22, 20⟩ orderly integral
  intro dialog width
  change dialog.session.profile = some profile ∧ dialog.pane = (pane ⟨22, 20⟩).size ∧
    dialog.scroll = dialog.maxScroll at reached
  clear_value dialog
  obtain ⟨held, known, -⟩ := reached
  have columns : width = 20 := congrArg Size.width known
  have text : dialog.session.profileText = profile.pretty := by rw [Session.profileText, held]
  have rows : dialog.rows width = Text.wrap 20 profile.pretty.toList := by
    rw [columns, Dialog.rows, text]
  rw [rows, text, columns]
  refine ⟨known, by decide, ?_, by decide +kernel, ?_⟩
  · decide +kernel
  · decide +kernel

end ProfileClient.Frame
