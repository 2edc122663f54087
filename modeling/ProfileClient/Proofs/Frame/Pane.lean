import ProfileClient.Proofs.Frame.Canvas
/-!
What the pane of the profile shows. Title and form are drawn above it, the status bar below it, and
the border with its titles around it. So its cells hold the rows of the profile and nothing else.
-/
namespace ProfileClient.Frame

theorem getElem?_along {α : Type} (start count : Nat) (change : α → α) (items : List α) (i : Nat) :
    (along start count change items)[i]? =
      items[i]?.map fun item => if start ≤ i ∧ i < start + count then change item else item :=
  List.getElem?_mapIdx

theorem along_replicate {α : Type} (count : Nat) (change : α → α) (item : α) :
    along 0 count change (List.replicate count item) = List.replicate count (change item) := by
  refine List.ext_getElem (by simp) fun i inside _ => ?_
  have before : i < count := by simpa using inside
  simp [along, before]

/-- Between the first and the last item nothing changes where these do. -/
theorem take_drop_modify_ends {α : Type} (count : Nat) (item : α) (first last : α → α) :
    ((((List.replicate count item).modify 0 first).modify (count - 1) last).drop 1).take
        (count - 2) = List.replicate (count - 2) item := by
  refine List.ext_getElem (by simp; omega) fun i _ inside => ?_
  rw [List.length_replicate] at inside
  rw [List.getElem_take, List.getElem_drop, List.getElem_modify_ne _ _ (by omega),
    List.getElem_modify_ne _ _ (by omega), List.getElem_replicate, List.getElem_replicate]

theorem overlay_nil (glyphs : List Glyph) : overlay glyphs [] = [] :=
  List.eq_nil_of_length_eq_zero (length_overlay glyphs [])

/-- What lies behind the first cells has no effect on them. -/
theorem take_overlay (width : Nat) (glyphs : List Glyph) (cells : List Cell) :
    (overlay glyphs cells).take width = overlay glyphs (cells.take width) := by
  induction glyphs, cells using overlay.induct generalizing width with
  | case1 cells => rw [overlay, overlay]
  | case2 glyph rest => rw [List.take_nil, overlay_nil, List.take_nil]
  | case3 glyph rest cell cells ih =>
      cases width with
      | zero => rw [List.take_zero, List.take_zero, overlay_nil]
      | succ width =>
          rw [overlay, List.take_succ_cons, List.take_succ_cons, overlay, List.take_append, ih,
            List.take_take, List.take_take, List.drop_take, List.length_take, Nat.min_comm width]
          by_cases covered : glyph.columns - 1 ≤ cells.length
          · rw [Nat.min_eq_left covered]
          · rw [List.drop_of_length_le (Nat.le_of_not_le covered), List.take_nil, List.take_nil]

namespace Canvas

/-- The cells of a row of an area. -/
def rowIn (area : Area) (i : Nat) (canvas : Canvas) : Option (List Cell) :=
  canvas[area.y + i]?.map fun row => (row.drop area.x).take area.width

section Keeps
variable {canvas : Canvas} {row : List Cell} {y : Nat} (found : canvas[y]? = some row)
  (area : Area) (style : Style)
include found

theorem modify_keeps {place : Nat} (other : place ≠ y) (change : List Cell → List Cell) :
    (canvas.modify place change)[y]? = some row := by
  rw [List.getElem?_modify_ne _ _ other, found]

theorem putDown_keeps {x start count : Nat} {symbol : Char}
    (outside : y < start ∨ start + count ≤ y) :
    (canvas.putDown x start count symbol style)[y]? = some row := by
  rw [putDown, getElem?_along, found, Option.map_some, if_neg (by omega)]

theorem putDown_row {start count : Nat} (inside : start ≤ y ∧ y < start + count) (x : Nat)
    (symbol : Char) :
    (canvas.putDown x start count symbol style)[y]? =
      some (row.modify x (.draw [symbol] style)) := by
  rw [putDown, getElem?_along, found, Option.map_some, if_pos inside]

theorem paint_keeps (outside : y < area.y ∨ area.y + area.height ≤ y) :
    (canvas.paint area style)[y]? = some row := by
  rw [paint, getElem?_along, found, Option.map_some, if_neg (by omega)]

theorem paint_row (inside : area.y ≤ y ∧ y < area.y + area.height) :
    (canvas.paint area style)[y]? = some (along area.x area.width
      (fun cell => { cell with style := style.under cell.style }) row) := by
  rw [paint, getElem?_along, found, Option.map_some, if_pos inside]

theorem border_keeps (outside : y < area.y ∨ area.y + area.height ≤ y) :
    (canvas.border area style)[y]? = some row := by
  unfold border
  split
  · exact found
  · have top : area.y ≠ y := by omega
    have bottom : area.y + area.height - 1 ≠ y := by omega
    refine modify_keeps (modify_keeps (modify_keeps (modify_keeps (modify_keeps ?_ bottom _)
      bottom _) top _) bottom _) top _
    exact putDown_keeps (modify_keeps (putDown_keeps found style outside) top _) style outside

/-- Between its top and its bottom a border changes the first and the last column. -/
theorem border_row (between : area.y < y ∧ y + 1 < area.y + area.height) (wide : area.width ≠ 0) :
    (canvas.border area style)[y]? = some ((row.modify area.x (.draw ['│'] style)).modify
      (area.x + area.width - 1) (.draw ['│'] style)) := by
  have inside : area.y ≤ y ∧ y < area.y + area.height := by omega
  have top : area.y ≠ y := by omega
  have bottom : area.y + area.height - 1 ≠ y := by omega
  rw [border, if_neg (by omega)]
  refine modify_keeps (modify_keeps (modify_keeps (modify_keeps (modify_keeps ?_ bottom _) bottom _)
    top _) bottom _) top _
  exact putDown_row (modify_keeps (putDown_row found style inside _ _) top _) style inside _ _

theorem topTitle_keeps (other : area.y ≠ y) (title : Line) :
    (canvas.topTitle area title)[y]? = some row := by
  unfold topTitle
  split
  · exact found
  · exact modify_keeps found other _

theorem bottomTitle_keeps (other : area.y + area.height - 1 ≠ y) (title : Line) :
    (canvas.bottomTitle area title)[y]? = some row := by
  unfold bottomTitle
  split
  · exact found
  · exact modify_keeps found other _

end Keeps

theorem getElem?_overlayLines_of_le {lines : List Line} {i : Nat} (behind : lines.length ≤ i)
    (x width : Nat) (rows : Canvas) : (overlayLines x width lines rows)[i]? = rows[i]? := by
  induction lines generalizing rows i with
  | nil => rfl
  | cons line lines ih =>
      cases rows with
      | nil => rfl
      | cons row rows =>
          cases i with
          | zero => cases behind
          | succ i => exact ih (Nat.le_of_succ_le_succ behind) rows

theorem putLines_keeps {canvas : Canvas} {row : List Cell} {y : Nat} (found : canvas[y]? = some row)
    (area : Area) (lines : List Line)
    (outside : y < area.y ∨ area.y + min area.height lines.length ≤ y) :
    (canvas.putLines area lines)[y]? = some row := by
  have within := (List.getElem?_eq_some_iff.mp found).1
  rw [putLines, onward]
  rcases outside with above | below
  · have front : y < (canvas.take area.y).length := by
      rw [List.length_take]
      omega
    rw [List.getElem?_append_left front, List.getElem?_take_of_lt above, found]
  · have length : (canvas.take area.y).length = area.y := by
      rw [List.length_take]
      omega
    rw [List.getElem?_append_right (by omega), length, getElem?_overlayLines_of_le,
      List.getElem?_drop, Nat.add_sub_of_le (by omega), found]
    rw [List.length_take]
    omega

end Canvas

section Parts
variable {canvas : Canvas} {row : List Cell} {y : Nat} (found : canvas[y]? = some row)
  (dialog : Dialog) {area : Area}
include found

theorem drawTitle_keeps (below : area.y + area.height ≤ y) :
    (drawTitle dialog area canvas)[y]? = some row := by
  unfold drawTitle
  split
  · exact found
  · refine Canvas.putLines_keeps (Canvas.modify_keeps found ?_ _) _ _ (.inr ?_)
    · omega
    · dsimp only
      omega

theorem drawForm_keeps (below : area.y + area.height ≤ y) :
    (drawForm dialog area canvas)[y]? = some row := by
  unfold drawForm
  have border := Canvas.border_keeps found area .activeBorder (.inr below)
  unfold Canvas.topTitle
  split
  · refine Canvas.putLines_keeps border _ _ (.inr ?_)
    simp only [Area.inside]
    omega
  · refine Canvas.putLines_keeps (Canvas.modify_keeps border ?_ _) _ _ (.inr ?_)
    · omega
    · simp only [Area.inside]
      omega

theorem drawStatus_keeps (above : y < area.y) :
    (drawStatus dialog area canvas)[y]? = some row :=
  Canvas.putLines_keeps (Canvas.paint_keeps found area .statusBar (.inl above)) _ _ (.inl above)

end Parts

/-- A row of text in cells of a style, as far as the width goes. -/
def drawnRow (width : Nat) (style : Style) (text : List Char) : List Cell :=
  overlay (fitting width 0 (plainLine text).glyphs) (List.replicate width ⟨[' '], style⟩)

/-- Narrow characters stand in cells one behind the other, with blanks behind the last. -/
theorem overlay_narrow_blanks (style : Style) (text : List Char) (x count : Nat) :
    overlay (fitting (x + count) x (narrowGlyphs .plain text))
        (List.replicate count ⟨[' '], style⟩) =
      (text.take count ++ List.replicate (count - text.length) ' ').map fun c => ⟨[c], style⟩ := by
  induction text generalizing x count with
  | nil => simp [narrowGlyphs, fitting, overlay]
  | cons c text ih =>
      cases count with
      | zero => simp [overlay_nil]
      | succ count =>
          have next := ih (x + 1) count
          rw [Nat.add_right_comm, Nat.add_assoc] at next
          rw [narrowGlyphs, List.map_cons, fitting_of_narrow rfl _ (by omega), List.replicate_succ,
            overlay_of_narrow rfl, List.take_succ_cons, List.length_cons, Nat.add_sub_add_right,
            List.cons_append, List.map_cons, ← next]
          rfl

/-- A row of narrow characters is drawn as it is. -/
theorem drawnRow_of_isNarrow {text : List Char} (narrow : ∀ c ∈ text, IsNarrow c) (width : Nat)
    (style : Style) :
    drawnRow width style text =
      (text.take width ++ List.replicate (width - text.length) ' ').map
        fun c => ⟨[c], style⟩ := by
  have drawn := overlay_narrow_blanks style text 0 width
  rwa [Nat.zero_add, ← Line.glyphs_of_isNarrow .plain narrow] at drawn

theorem drop_onward {α : Type} {start : Nat} {items : List α} (within : start ≤ items.length)
    (change : List α → List α) :
    (onward start change items).drop start = change (items.drop start) := by
  rw [onward, List.drop_left' (List.length_take_of_le within)]

theorem Layout.profile_end (size : Size) :
    (of size).profile.y + (of size).profile.height = (of size).status.y ∧
      (of size).status.y ≤ size.height := by
  have sum := Heights.sum_of size.height
  refine ⟨rfl, ?_⟩
  simp only [of]
  omega

/-- Title and form are drawn above the profile. -/
theorem getElem?_drawForm (dialog : Dialog) (size : Size) {y : Nat}
    (below : (Layout.of size).profile.y ≤ y) (within : y < size.height) :
    (drawForm dialog (Layout.of size).form
        (drawTitle dialog (Layout.of size).title (Canvas.blank size)))[y]? =
      some (List.replicate size.width .blank) := by
  have title : (Layout.of size).title.y + (Layout.of size).title.height ≤ y := by
    simp only [Layout.of] at below ⊢
    omega
  have form : (Layout.of size).form.y + (Layout.of size).form.height ≤ y := by
    simp only [Layout.of] at below ⊢
    omega
  refine drawForm_keeps (drawTitle_keeps ?_ dialog title) dialog form
  rw [Canvas.blank, List.getElem?_replicate_of_lt within]

section Pane
variable {size : Size} {i : Nat} (inside : i < (pane size).height)
include inside

theorem Layout.of_pane :
    (pane size).y = (Layout.of size).profile.y + 1 ∧
      (pane size).y + i + 1 < (Layout.of size).profile.y + (Layout.of size).profile.height := by
  simp only [pane, Layout.of, Area.inside] at inside ⊢
  omega

/-- Before its lines are drawn the pane is blank. -/
theorem exists_blank_row {canvas : Canvas}
    (found : canvas[(pane size).y + i]? = some (List.replicate size.width .blank)) (style : Style)
    (top bottom : Line) :
    ∃ row, (canvas
        |>.paint (Layout.of size).profile style
        |>.border (Layout.of size).profile .muted
        |>.topTitle (Layout.of size).profile top
        |>.bottomTitle (Layout.of size).profile bottom)[(pane size).y + i]? = some row ∧
      row.length = size.width ∧
      (row.drop (pane size).x).take (pane size).width =
        List.replicate (pane size).width ⟨[' '], style⟩ := by
  obtain ⟨start, within⟩ := Layout.of_pane inside
  have painted := Canvas.paint_row found (Layout.of size).profile style (by omega)
  have blank : along (Layout.of size).profile.x (Layout.of size).profile.width
      (fun cell : Cell => { cell with style := style.under cell.style })
      (List.replicate size.width .blank) = List.replicate size.width ⟨[' '], style⟩ := by
    rw [Layout.of, along_replicate]
    simp [Cell.blank]
  rw [blank] at painted
  have titled {row : List Cell} {bordered : Canvas}
      (held : bordered[(pane size).y + i]? = some row) :=
    Canvas.bottomTitle_keeps (Canvas.topTitle_keeps held (Layout.of size).profile (by omega) top)
      (Layout.of size).profile (by omega) bottom
  by_cases wide : size.width = 0
  · have thin : (pane size).width = 0 := by simp [pane, Area.inside, Layout.of, wide]
    have plain : (canvas.paint (Layout.of size).profile style).border (Layout.of size).profile
        .muted = canvas.paint (Layout.of size).profile style := by
      rw [Canvas.border, if_pos (.inl wide)]
    rw [plain]
    refine ⟨_, titled painted, List.length_replicate, ?_⟩
    rw [thin, List.take_zero, List.replicate_zero]
  · refine ⟨_, titled (Canvas.border_row painted _ _ (by omega) wide), ?_, ?_⟩
    · simp
    · have left : (pane size).x = 1 := by
        simp only [pane, Area.inside, Layout.of]
        omega
      have ends : (Layout.of size).profile.x + (Layout.of size).profile.width - 1 =
          size.width - 1 := by
        simp [Layout.of]
      rw [left, ends]
      exact take_drop_modify_ends size.width _ _ _

/-- A frame that is drawn shows the rows of its window in the pane, from the top on. What they leave
of the pane is blank. -/
theorem rowIn_pane {dialog : Dialog} {frame : Canvas} (drawn : draw dialog size = some frame) :
    frame.rowIn (pane size) i = some (drawnRow (pane size).width (profileStyle dialog.session.view)
      ((Window.of dialog (pane size).size).rows[i]?.getD [])) := by
  obtain ⟨canvas, profile, rfl⟩ := Option.map_eq_some_iff.mp drawn
  rw [drawProfile, Canvas.putScrolled?_eq_some_iff] at profile
  obtain ⟨-, rfl⟩ := profile
  obtain ⟨start, within⟩ := Layout.of_pane inside
  obtain ⟨ends, whole⟩ := Layout.profile_end size
  have form := getElem?_drawForm dialog size (y := (pane size).y + i) (by omega) (by omega)
  have status : (pane size).y + i < (Layout.of size).status.y := by omega
  obtain ⟨row, found, whole, blank⟩ := exists_blank_row inside form
    (profileStyle dialog.session.view) [span .plain " Profile "]
    (Window.of dialog (pane size).size).marker
  cases held : (Window.of dialog (pane size).size).rows[i]? with
  | none =>
      have few := List.getElem?_eq_none_iff.mp held
      have kept := Canvas.putLines_keeps found (pane size)
        (Window.of dialog (pane size).size).lines
        (.inr (by rw [Window.lines, List.length_map]; omega))
      refine (congrArg (Option.map _) (drawStatus_keeps kept dialog status)).trans ?_
      exact congrArg some blank
  | some text =>
      have left : (pane size).x ≤ row.length := by
        rw [whole]
        simp only [pane, Area.inside, Layout.of]
        omega
      have said : (Window.of dialog (pane size).size).lines[i]? = some (plainLine text) := by
        rw [Window.lines, List.getElem?_map, held]
        rfl
      have put := Canvas.getElem?_putLines inside said found
      refine (congrArg (Option.map _) (drawStatus_keeps put dialog status)).trans ?_
      have cells := take_overlay (pane size).width
        (fitting (pane size).width 0 (plainLine text).glyphs) (row.drop (pane size).x)
      rw [Option.map_some, drop_onward left, cells, blank]
      rfl

end Pane

end ProfileClient.Frame
