import ProfileClient.Proofs.Frame.Pane
/-!
What the lower border of the pane shows: a rule between two corners, and at its right end the marks
of what lies outside the pane.
-/
namespace ProfileClient.Frame

def symbols (row : List Cell) : List (List Char) := row.map (·.symbol)

theorem symbols_modify (row : List Cell) (i : Nat) (c : Char) (style : Style) :
    symbols (row.modify i (.draw [c] style)) = (symbols row).modify i fun _ => [c] := by
  induction row generalizing i with
  | nil => cases i <;> rfl
  | cons cell row ih =>
      cases i with
      | zero => rfl
      | succ i => exact congrArg (cell.symbol :: ·) (ih i)

theorem symbols_along (start count : Nat) (c : Char) (style : Style) (row : List Cell) :
    symbols (along start count (.draw [c] style) row) =
      along start count (fun _ => [c]) (symbols row) := by
  refine List.ext_getElem? fun i => ?_
  rw [symbols, List.getElem?_map, getElem?_along, getElem?_along, symbols, List.getElem?_map,
    Option.map_map, Option.map_map]
  refine congrArg (Option.map · row[i]?) (funext fun cell => ?_)
  rw [Function.comp_apply, Function.comp_apply]
  split <;> rfl

theorem along_const {α : Type} (item : α) (items : List α) :
    along 0 items.length (fun _ => item) items = List.replicate items.length item := by
  refine List.ext_getElem (by simp) fun i inside _ => ?_
  have before : i < items.length := by simpa using inside
  simp [along, before]

theorem modify_ends_replicate {α : Type} (count : Nat) (item first last : α) :
    ((List.replicate (count + 2) item).modify (count + 1) fun _ => last).modify 0 (fun _ => first) =
      first :: (List.replicate count item ++ [last]) := by
  have behind : (List.replicate (count + 1) item).modify count (fun _ => last) =
      List.replicate count item ++ [last] := by
    induction count with
    | zero => rfl
    | succ count ih => exact congrArg (item :: ·) ih
  exact congrArg (first :: ·) behind

theorem symbols_onward (start : Nat) (change : List Cell → List Cell) (row : List Cell) :
    symbols (onward start change row) =
      (symbols row).take start ++ symbols (change (row.drop start)) := by
  rw [onward, symbols, List.map_append, List.map_take]
  rfl

theorem symbols_drop (count : Nat) (row : List Cell) :
    symbols (row.drop count) = (symbols row).drop count := List.map_drop

/-- Glyphs of one column each that fit are all drawn, and what lies behind them stays. -/
theorem symbols_overlay_narrow {glyphs : List Glyph} (narrow : ∀ glyph ∈ glyphs, glyph.columns = 1)
    {x width : Nat} (fits : x + glyphs.length ≤ width) {cells : List Cell}
    (room : glyphs.length ≤ cells.length) :
    symbols (overlay (fitting width x glyphs) cells) =
      glyphs.map (·.symbol) ++ (symbols cells).drop glyphs.length := by
  induction glyphs generalizing x cells with
  | nil => rfl
  | cons glyph rest ih =>
      rw [List.length_cons] at fits room
      obtain ⟨cell, cells, rfl⟩ := List.exists_cons_of_length_pos (Nat.zero_lt_of_lt room)
      have one := narrow glyph (List.mem_cons_self ..)
      rw [fitting_of_narrow one _ (by omega), overlay_of_narrow one]
      have behind := ih (fun g mem => narrow g (List.mem_cons_of_mem _ mem))
        (show x + 1 + rest.length ≤ width by omega) (Nat.le_of_succ_le_succ room)
      exact congrArg (glyph.symbol :: ·) behind

theorem Line.glyphs_narrow {line : Line} (narrow : ∀ span ∈ line, ∀ c ∈ span.text, IsNarrow c) :
    (∀ glyph ∈ line.glyphs, glyph.columns = 1) ∧
      line.glyphs.map (·.symbol) = (line.flatMap (·.text)).map ([·]) := by
  induction line with
  | nil => exact ⟨nofun, rfl⟩
  | cons span line ih =>
      obtain ⟨one, same⟩ := ih fun other mem => narrow other (List.mem_cons_of_mem _ mem)
      have own : Line.glyphs [span] = narrowGlyphs span.style span.text :=
        glyphs_of_isNarrow span.style (narrow span (List.mem_cons_self ..))
      rw [glyphs_cons, own, List.map_append, same, List.flatMap_cons, List.map_append]
      refine ⟨fun glyph mem => ?_, congrArg (· ++ _) ?_⟩
      · rcases List.mem_append.mp mem with mem | mem
        · obtain ⟨c, -, rfl⟩ := List.mem_map.mp mem
          rfl
        · exact one glyph mem
      · exact List.map_map

theorem Canvas.modify_row {canvas : Canvas} {row : List Cell} {y : Nat}
    (found : canvas[y]? = some row) (change : List Cell → List Cell) :
    (canvas.modify y change)[y]? = some (change row) := by
  rw [List.getElem?_modify_eq, found]
  rfl

section Lowest
variable {canvas : Canvas} {area : Area} {row : List Cell}
  (found : canvas[area.y + area.height - 1]? = some row) (tall : 2 ≤ area.height)
include found tall

/-- The lowest row of a border is a rule between two corners. -/
theorem Canvas.border_lowest (wide : 2 ≤ area.width) (flush : area.x = 0)
    (whole : row.length = area.width) (style : Style) :
    ∃ drawn, (canvas.border area style)[area.y + area.height - 1]? = some drawn ∧
      symbols drawn = ['└'] :: (List.replicate (area.width - 2) ['─'] ++ [['┘']]) := by
  have top : area.y ≠ area.y + area.height - 1 := by omega
  have inside : area.y ≤ area.y + area.height - 1 ∧
      area.y + area.height - 1 < area.y + area.height := by omega
  have left := putDown_row found style inside area.x '│'
  have right := putDown_row (modify_keeps left top (along area.x area.width (.draw ['─'] style)))
    style inside (area.x + area.width - 1) '│'
  have rule := modify_row right (along area.x area.width (.draw ['─'] style))
  have corner := modify_row rule (·.modify (area.x + area.width - 1) (.draw ['┘'] style))
  have both := modify_row (modify_keeps corner top
    (·.modify (area.x + area.width - 1) (.draw ['┐'] style)))
    (·.modify area.x (.draw ['└'] style))
  rw [border, if_neg (by omega)]
  refine ⟨_, modify_keeps both top (·.modify area.x (.draw ['┌'] style)), ?_⟩
  obtain ⟨count, width⟩ := Nat.exists_eq_add_of_le' wide
  rw [symbols_modify, symbols_modify, symbols_along]
  generalize below : symbols _ = items
  have length : items.length = count + 2 := by
    rw [← below, ← width, ← whole]
    simp [symbols]
  rw [flush, Nat.zero_add, width, ← length, along_const, length]
  exact modify_ends_replicate count ['─'] ['└'] ['┘']

/-- A title of narrow characters that fits stands before the right corner. -/
theorem Canvas.bottomTitle_lowest {title : Line}
    (narrow : ∀ span ∈ title, ∀ c ∈ span.text, IsNarrow c)
    (room : (title.flatMap (·.text)).length ≤ area.width - 2) (flush : area.x = 0)
    (rule : symbols row = ['└'] :: (List.replicate (area.width - 2) ['─'] ++ [['┘']])) :
    ∃ drawn, (canvas.bottomTitle area title)[area.y + area.height - 1]? = some drawn ∧
      symbols drawn = ['└'] ::
        (List.replicate (area.width - 2 - (title.flatMap (·.text)).length) ['─'] ++
          ((title.flatMap (·.text)).map ([·]) ++ [['┘']])) := by
  obtain ⟨one, same⟩ := Line.glyphs_narrow narrow
  have length : title.glyphs.length = (title.flatMap (·.text)).length := by
    simpa using congrArg List.length same
  rw [← length] at room ⊢
  rw [bottomTitle, if_neg (by omega)]
  dsimp only
  rw [Nat.sub_eq_zero_of_le room, List.drop_zero, putGlyphs]
  refine ⟨_, modify_row found _, ?_⟩
  obtain ⟨count, split⟩ := Nat.exists_eq_add_of_le' room
  have cells : title.glyphs.length ≤ (row.drop (count + 1)).length := by
    have whole := congrArg List.length rule
    simp only [symbols, List.length_map, List.length_cons, List.length_append,
      List.length_replicate, List.length_nil] at whole
    rw [List.length_drop]
    omega
  rw [flush, split, Nat.add_sub_cancel, Nat.zero_add, Nat.add_comm 1, symbols_onward,
    symbols_overlay_narrow one (by omega) cells, same, symbols_drop, rule, split]
  have front : (List.replicate (count + title.glyphs.length) ['─'] ++ [['┘']]).take count =
      List.replicate count ['─'] := by
    rw [List.take_append_of_le_length (by simp), List.take_replicate,
      Nat.min_eq_left (Nat.le_add_right ..)]
  simp [front]

end Lowest

def upMark : Span := span .key "▲ more [PgUp] "

def downMark : Span := span .key "▼ more [PgDn] "

/-- The text of the marks: a blank before those of them that there are. -/
def markText (above below : Bool) : List Char :=
  if above || below then
    ' ' :: ((if above then "▲ more [PgUp] ".toList else []) ++
      if below then "▼ more [PgDn] ".toList else [])
  else []

theorem Window.marker_eq (window : Window) :
    window.marker =
      if 0 < window.above ∨ 0 < window.below then
        blanks 1 :: ((if 0 < window.above then [upMark] else []) ++
          if 0 < window.below then [downMark] else [])
      else [] := by
  simp only [marker, Bool.or_eq_true, decide_eq_true_eq]
  rfl

theorem Window.marker_text (window : Window) :
    (∀ span ∈ window.marker, ∀ c ∈ span.text, IsNarrow c) ∧
      window.marker.flatMap (·.text) = markText (0 < window.above) (0 < window.below) := by
  have narrow :
      ([blanks 1, upMark, downMark].all fun span => span.text.all (IsNarrow ·)) = true := by
    decide +kernel
  have one : ∀ span ∈ [blanks 1, upMark, downMark], ∀ c ∈ span.text, IsNarrow c := by
    intro span mem
    have own := List.all_eq_true.mp narrow span mem
    simpa only [List.all_eq_true, decide_eq_true_eq] using own
  rw [marker_eq]
  constructor
  · intro span mem
    refine one span ?_
    by_cases above : 0 < window.above <;> by_cases below : 0 < window.below <;>
      simp only [above, below, or_self, or_true, or_false, if_true, if_false] at mem <;> grind
  · by_cases above : 0 < window.above <;> by_cases below : 0 < window.below <;>
      simp [above, below, markText, blanks, upMark, downMark, Frame.span]

theorem Canvas.rowText_of_symbols {row : List Cell} {text : List Char}
    (drawn : symbols row = text.map ([·])) : rowText row = String.ofList text := by
  rw [rowText, List.flatMap_def, ← symbols, drawn, ← List.flatMap_def, List.flatMap_singleton']

/-- The lower border of a pane in a frame that is drawn is a rule with the marks at its end, if it
has the room for them. -/
theorem lowerBorder_of_drawn {dialog : Dialog} {size : Size} {frame : Canvas}
    (drawn : draw dialog size = some frame)
    (visible : (pane size).width ≠ 0 ∧ (pane size).height ≠ 0) :
    let window := Window.of dialog (pane size).size
    let marks := markText (0 < window.above) (0 < window.below)
    marks.length ≤ (pane size).width →
      (frame[(pane size).y + (pane size).height]?).map Canvas.rowText =
        some (String.ofList ('└' :: (List.replicate ((pane size).width - marks.length) '─' ++
          (marks ++ ['┘'])))) := by
  intro window marks room
  obtain ⟨canvas, profile, rfl⟩ := Option.map_eq_some_iff.mp drawn
  rw [drawProfile, Canvas.putScrolled?_eq_some_iff] at profile
  obtain ⟨-, rfl⟩ := profile
  obtain ⟨ends, whole⟩ := Layout.profile_end size
  obtain ⟨narrow, text⟩ := window.marker_text
  have lowest : (pane size).y + (pane size).height =
        (Layout.of size).profile.y + (Layout.of size).profile.height - 1 ∧
      3 ≤ (Layout.of size).profile.height ∧
      (Layout.of size).profile.width = (pane size).width + 2 := by
    simp only [pane, Area.inside] at visible ⊢
    omega
  have form := getElem?_drawForm dialog size
    (y := (Layout.of size).profile.y + (Layout.of size).profile.height - 1) (by omega) (by omega)
  have painted := Canvas.paint_row form (Layout.of size).profile
    (profileStyle dialog.session.view) (by omega)
  obtain ⟨rule, bordered, corners⟩ := Canvas.border_lowest painted (by omega) (by omega) rfl
    (by simp [Layout.of]) .muted
  have titled := Canvas.topTitle_keeps bordered (Layout.of size).profile (by omega)
    [span .plain " Profile "]
  obtain ⟨row, found, shown⟩ := Canvas.bottomTitle_lowest titled (by omega) narrow
    (by rw [text, lowest.2.2]; exact room) rfl corners
  have kept := Canvas.putLines_keeps found (pane size) window.lines (.inr (by omega))
  have status : (Layout.of size).profile.y + (Layout.of size).profile.height - 1 <
      (Layout.of size).status.y := by omega
  have last := drawStatus_keeps kept dialog status
  rw [lowest.1]
  refine (congrArg (Option.map _) last).trans (congrArg some (Canvas.rowText_of_symbols ?_))
  rw [shown, text, lowest.2.2]
  simp [marks]

end ProfileClient.Frame
