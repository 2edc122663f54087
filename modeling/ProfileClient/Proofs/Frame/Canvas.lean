import ProfileClient.Frame.Draw
import ProfileClient.Proofs.Text.Columns
/-!
What drawing does to the cells. It keeps the shape of a canvas, so each place on a screen has a
cell; and a text of narrow characters stands in its row as it was drawn.
-/
namespace ProfileClient.Frame

@[simp]
theorem length_overlay (glyphs : List Glyph) (cells : List Cell) :
    (overlay glyphs cells).length = cells.length := by
  induction glyphs, cells using overlay.induct with
  | case1 cells => rw [overlay]
  | case2 glyph rest => rw [overlay]
  | case3 glyph rest cell cells ih =>
      rw [overlay, List.length_cons, List.length_append, ih, List.length_take, List.length_drop,
        List.length_cons]
      omega

@[simp]
theorem length_along {α : Type} (start count : Nat) (change : α → α) (items : List α) :
    (along start count change items).length = items.length := List.length_mapIdx

@[simp]
theorem length_onward_overlay (start : Nat) (glyphs : List Glyph) (cells : List Cell) :
    (onward start (overlay glyphs) cells).length = cells.length := by
  rw [onward, List.length_append, length_overlay, List.length_take, List.length_drop]
  omega

namespace Canvas

def widths (canvas : Canvas) : List Nat := canvas.map List.length

section Rows
variable {change : List Cell → List Cell} (keeps : ∀ row, (change row).length = row.length)
include keeps

theorem widths_modify (y : Nat) (canvas : Canvas) :
    widths (canvas.modify y change) = canvas.widths := by
  induction canvas generalizing y with
  | nil => cases y <;> rfl
  | cons row rows ih =>
      cases y with
      | zero => exact congrArg (· :: rows.map List.length) (keeps row)
      | succ y => exact congrArg (row.length :: ·) (ih y)

theorem widths_along (y count : Nat) (canvas : Canvas) :
    widths (along y count change canvas) = canvas.widths := by
  refine List.ext_getElem (by simp [widths]) fun i _ _ => ?_
  simp only [widths, along, List.getElem_map, List.getElem_mapIdx]
  split
  · exact keeps _
  · rfl

end Rows

section Drawing
variable (canvas : Canvas) (area : Area) (style : Style)

@[simp]
theorem widths_put (x y : Nat) (symbol : Char) :
    (canvas.put x y symbol style).widths = canvas.widths :=
  widths_modify (fun _ => List.length_modify ..) y canvas

@[simp]
theorem widths_paint : (canvas.paint area style).widths = canvas.widths :=
  widths_along (length_along _ _ _) _ _ canvas

@[simp]
theorem widths_putGlyphs (x y : Nat) (glyphs : List Glyph) :
    (canvas.putGlyphs x y glyphs).widths = canvas.widths :=
  widths_modify (length_onward_overlay x glyphs) y canvas

@[simp]
theorem widths_putAcross (x y count : Nat) (symbol : Char) :
    (canvas.putAcross x y count symbol style).widths = canvas.widths :=
  widths_modify (length_along _ _ _) y canvas

@[simp]
theorem widths_putDown (x y count : Nat) (symbol : Char) :
    (canvas.putDown x y count symbol style).widths = canvas.widths :=
  widths_along (fun _ => List.length_modify ..) y count canvas

theorem widths_overlayLines (x width : Nat) (lines : List Line) :
    (overlayLines x width lines canvas).widths = canvas.widths := by
  induction lines generalizing canvas with
  | nil => rfl
  | cons line lines ih =>
      cases canvas with
      | nil => rfl
      | cons row rows =>
          exact List.cons_eq_cons.mpr ⟨length_onward_overlay .., ih rows⟩

@[simp]
theorem widths_putLines (lines : List Line) :
    (canvas.putLines area lines).widths = canvas.widths := by
  have below := widths_overlayLines (canvas.drop area.y) area.x area.width (lines.take area.height)
  unfold widths at below ⊢
  rw [putLines, onward, List.map_append, below, ← List.map_append, List.take_append_drop]

@[simp]
theorem widths_border : (canvas.border area style).widths = canvas.widths := by
  unfold border
  split
  · rfl
  · simp

@[simp]
theorem widths_topTitle (title : Line) : (canvas.topTitle area title).widths = canvas.widths := by
  unfold topTitle
  split
  · rfl
  · simp

@[simp]
theorem widths_bottomTitle (title : Line) :
    (canvas.bottomTitle area title).widths = canvas.widths := by
  unfold bottomTitle
  split
  · rfl
  · simp

end Drawing

/-- Whether lines can be drawn in an area, the first one as line number `scroll` of a text. -/
def Numbered (area : Area) (scroll : Nat) (lines : List Line) : Prop :=
  area.width = 0 ∨ area.height = 0 ∨ scroll + area.height ≤ Dialog.lastRow ∧
    ∀ i line, i < area.height → lines[i]? = some line →
      fitting area.width 0 line.glyphs ≠ [] → area.y + (scroll + i) ≤ Dialog.lastRow

theorem numbered_iff (width first : Nat) (lines : List Line) :
    numbered width first lines = true ↔
      ∀ i line, lines[i]? = some line → fitting width 0 line.glyphs ≠ [] →
        first + i ≤ Dialog.lastRow := by
  induction lines generalizing first with
  | nil => simp [numbered]
  | cons top lines ih =>
      rw [numbered, Bool.and_eq_true, Bool.or_eq_true, List.isEmpty_iff, decide_eq_true_eq, ih]
      constructor
      · rintro ⟨here, later⟩ i line said drawn
        cases i with
        | zero =>
            cases said
            exact here.resolve_left drawn
        | succ i =>
            have := later i line said drawn
            omega
      · intro all
        refine ⟨?_, fun i line said drawn => ?_⟩
        · by_cases drawn : fitting width 0 top.glyphs = []
          · exact .inl drawn
          · exact .inr (all 0 top rfl drawn)
        · have := all (i + 1) line said drawn
          omega

theorem putScrolled?_eq_some_iff {area : Area} {scroll : Nat} {lines : List Line}
    {canvas drawn : Canvas} :
    canvas.putScrolled? area scroll lines = some drawn ↔
      Numbered area scroll lines ∧ drawn = canvas.putLines area lines := by
  have numbers : numbered area.width (area.y + scroll) (lines.take area.height) = true ↔
      ∀ i line, i < area.height → lines[i]? = some line → fitting area.width 0 line.glyphs ≠ [] →
        area.y + (scroll + i) ≤ Dialog.lastRow := by
    rw [numbered_iff]
    simp only [List.getElem?_take, Nat.add_assoc, Option.ite_none_right_eq_some, and_imp]
  rw [putScrolled?, Option.ite_none_right_eq_some, numbers, Option.some.injEq, eq_comm (b := drawn)]
  rfl

@[simp]
theorem widths_blank (size : Size) :
    (blank size).widths = List.replicate size.height size.width := by
  simp [blank, widths]

theorem exists_row {canvas : Canvas} {height width y : Nat}
    (shape : canvas.widths = List.replicate height width) (inside : y < height) :
    ∃ row, canvas[y]? = some row ∧ row.length = width := by
  have length : canvas.widths[y]? = some width := by
    rw [shape, List.getElem?_replicate_of_lt inside]
  rwa [widths, List.getElem?_map, Option.map_eq_some_iff] at length

end Canvas

section Parts
variable (dialog : Dialog) (area : Area) (canvas : Canvas)

@[simp]
theorem widths_drawTitle : (drawTitle dialog area canvas).widths = canvas.widths := by
  unfold drawTitle
  split <;> simp

@[simp]
theorem widths_drawForm : (drawForm dialog area canvas).widths = canvas.widths := by
  simp [drawForm]

theorem widths_of_drawProfile {drawn : Canvas}
    (profile : drawProfile dialog area canvas = some drawn) : drawn.widths = canvas.widths := by
  rw [drawProfile, Canvas.putScrolled?_eq_some_iff] at profile
  rw [profile.2]
  simp

end Parts

theorem Line.glyphs_cons (span : Span) (rest : Line) :
    Line.glyphs (span :: rest) = Line.glyphs [span] ++ Line.glyphs rest := by
  simp [Line.glyphs]

theorem Line.glyphs_of_standsAlone {text : List Char} (style : Style)
    (alone : ∀ c ∈ text, Text.StandsAlone c) :
    Line.glyphs [⟨text, style⟩] = text.map fun c => ⟨[c], Text.charColumns c, style⟩ := by
  have feed : ∀ symbol ∈ text.map ([·]), decide (symbol ≠ ['\n']) = true := by
    simp only [List.mem_map, forall_exists_index, and_imp, forall_apply_eq_imp_iff₂,
      decide_eq_true_eq]
    intro c mem same
    have other := alone c mem
    rw [List.singleton_inj.mp same] at other
    exact absurd other (by decide)
  rw [Line.glyphs, List.flatMap_singleton, Text.clusters_of_standsAlone alone,
    List.filter_eq_self.mpr feed, List.map_map]
  exact List.map_congr_left fun c _ => by simp [Text.columns_singleton]

/-- A character that joins no others and takes one column. -/
def IsNarrow (c : Char) : Prop := Text.StandsAlone c ∧ Text.charColumns c = 1

instance (c : Char) : Decidable (IsNarrow c) := inferInstanceAs (Decidable (_ ∧ _))

/-- The glyphs of a text of such characters. -/
def narrowGlyphs (style : Style) (text : List Char) : List Glyph :=
  text.map fun c => ⟨[c], 1, style⟩

theorem Line.glyphs_of_isNarrow {text : List Char} (style : Style)
    (narrow : ∀ c ∈ text, IsNarrow c) : Line.glyphs [⟨text, style⟩] = narrowGlyphs style text := by
  rw [glyphs_of_standsAlone style fun c mem => (narrow c mem).1]
  exact List.map_congr_left fun c mem => by rw [(narrow c mem).2]

section Narrow
variable {glyph : Glyph} (one : glyph.columns = 1) (rest : List Glyph)
include one

theorem fitting_of_narrow {width x : Nat} (fits : x < width) :
    fitting width x (glyph :: rest) = glyph :: fitting width (x + 1) rest := by
  rw [fitting, one, if_neg (by omega), if_neg (by omega), if_neg Nat.one_ne_zero]

theorem overlay_of_narrow (cell : Cell) (cells : List Cell) :
    overlay (glyph :: rest) (cell :: cells) =
      cell.draw glyph.symbol glyph.style :: overlay rest cells := by
  rw [overlay, one]
  rfl

end Narrow

/-- Glyphs of one column each are drawn in the cells from the first on, as far as the width goes. -/
theorem getElem?_overlay_narrow {width : Nat} {text : List Char} {style : Style}
    {rest : List Glyph} {x i : Nat} {c : Char} {cells : List Cell} {cell : Cell}
    (char : text[i]? = some c) (fits : x + i < width) (found : cells[i]? = some cell) :
    (overlay (fitting width x (narrowGlyphs style text ++ rest)) cells)[i]? =
      some (cell.draw [c] style) := by
  induction text generalizing x i cells with
  | nil => cases char
  | cons d text ih =>
      cases cells with
      | nil => cases found
      | cons first cells =>
          rw [narrowGlyphs, List.map_cons, List.cons_append, fitting_of_narrow rfl _ (by omega),
            overlay_of_narrow rfl]
          cases i with
          | zero =>
              cases char
              cases found
              rfl
          | succ i => exact ih char (by omega) found

namespace Canvas

section Lines
variable {i : Nat} {line : Line} {row : List Cell}

theorem getElem?_overlayLines {lines : List Line} {rows : Canvas} (x width : Nat)
    (said : lines[i]? = some line) (found : rows[i]? = some row) :
    (overlayLines x width lines rows)[i]? =
      some (onward x (overlay (fitting width 0 line.glyphs)) row) := by
  induction lines generalizing rows i with
  | nil => cases said
  | cons first lines ih =>
      cases rows with
      | nil => cases found
      | cons top rows =>
          cases i with
          | zero =>
              cases said
              cases found
              rfl
          | succ i => exact ih said found

/-- Each line is drawn in a row of its own, from the first row of the area on. -/
theorem getElem?_putLines {lines : List Line} {area : Area} {canvas : Canvas}
    (inside : i < area.height) (said : lines[i]? = some line)
    (found : canvas[area.y + i]? = some row) :
    (canvas.putLines area lines)[area.y + i]? =
      some (onward area.x (overlay (fitting area.width 0 line.glyphs)) row) := by
  have above : (canvas.take area.y).length = area.y := by
    have exists_row := (List.getElem?_eq_some_iff.mp found).1
    rw [List.length_take]
    omega
  rw [putLines, onward, List.getElem?_append_right (by omega), above, Nat.add_sub_cancel_left]
  refine getElem?_overlayLines area.x area.width ?_ ?_
  · rw [List.getElem?_take_of_lt inside, said]
  · rw [List.getElem?_drop, found]

end Lines

/-- A cell is shown as it is where no symbol before it takes more than one column. -/
theorem getElem?_shownRow {row : List Cell} {i : Nat}
    (narrow : ∀ j cell, j < i → row[j]? = some cell → Text.columns cell.symbol ≤ 1) :
    (shownRow false row)[i]? = row[i]? := by
  induction row generalizing i with
  | nil => rfl
  | cons cell rest ih =>
      cases i with
      | zero => rfl
      | succ i =>
          have first : decide (1 < Text.columns cell.symbol) = false :=
            decide_eq_false (Nat.not_lt.mpr (narrow 0 cell (Nat.zero_lt_succ i) rfl))
          rw [shownRow, first]
          exact ih fun j cell before => narrow (j + 1) cell (Nat.succ_lt_succ before)

end Canvas
end ProfileClient.Frame
