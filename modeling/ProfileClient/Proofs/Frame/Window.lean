import ProfileClient.Proofs.Dialog.Paging
import ProfileClient.Proofs.Frame.Marks
/-!
The part of the profile that a frame shows. The dialog keeps its scroll within a bound of its own,
so a frame with the pane that the dialog knows finds nothing to correct. Over rows too far from the
start of the profile the program stops, and no frame is drawn.
-/
namespace ProfileClient.Frame

namespace Window

theorem mem_marker_iff (window : Window) :
    (upMark ∈ window.marker ↔ 0 < window.above) ∧
      (downMark ∈ window.marker ↔ 0 < window.below) := by
  have up : upMark ≠ blanks 1 ∧ upMark ≠ downMark := by decide
  have down : downMark ≠ blanks 1 ∧ downMark ≠ upMark := by decide
  rw [marker_eq]
  by_cases above : 0 < window.above <;> by_cases below : 0 < window.below <;>
    simp [above, below, up, down]

/-- The window on `rows` that starts at `scroll`. -/
def onRows (rows : List (List Char)) (scroll height : Nat) : Window :=
  ⟨(rows.drop scroll).take height, scroll, rows.length - (scroll + height)⟩

theorem of_bounded {dialog : Dialog} (bounded : dialog.Bounded) :
    Window.of dialog dialog.pane =
      .onRows (dialog.rows dialog.pane.width) dialog.scroll dialog.pane.height := by
  have within := Nat.le_trans bounded (Nat.min_le_left ..)
  unfold Window.of Window.onRows
  dsimp only
  rw [Nat.min_eq_left within, Nat.sub_sub, Nat.add_comm]

theorem onRows_marker_iff {rows : List (List Char)} {scroll height : Nat} (written : rows ≠ []) :
    (upMark ∈ (Window.onRows rows scroll height).marker ↔ rows.take scroll ≠ []) ∧
      (downMark ∈ (Window.onRows rows scroll height).marker ↔
        rows.drop (scroll + height) ≠ []) := by
  obtain ⟨up, down⟩ := mem_marker_iff (.onRows rows scroll height)
  rw [up, down, Ne, Ne, List.take_eq_nil_iff, List.drop_eq_nil_iff]
  simp only [Window.onRows, written, or_false, Nat.pos_iff_ne_zero, Nat.sub_ne_zero_iff_lt,
    Nat.not_le, and_true]

end Window

/-- Whether a frame can be drawn is decided by the numbers of the rows in its pane. -/
theorem draw_isSome_iff (dialog : Dialog) (size : Size) :
    let window := Window.of dialog (pane size).size
    (draw dialog size).isSome ↔ Canvas.Numbered (pane size) window.above window.lines := by
  intro window
  rw [draw, Option.isSome_map, Option.isSome_iff_exists]
  simp only [drawProfile, Canvas.putScrolled?_eq_some_iff, exists_and_left, exists_eq, and_true]
  exact Iff.rfl

def filledSettings : Settings :=
  ⟨"http://localhost:8000", some "ada@example.org", none, none, some "secret"⟩

/-- A login answered with a token and a fetch answered with a profile; then a pane for a frame of a
size, and the key to the end. -/
def toEnd (profile : Json) (size : Size) : List Dialog.Input :=
  Dialog.Run.loading (Json.handing "A").sent profile.sent ++
    [.resize (pane size).size, .press .last]

/-- In every state of every run the scroll is within its bound. A frame whose pane is the one that
the dialog knows leaves the scroll as it is, and marks that rows lie above or below just if some do.
It is drawn just if the rows in the pane can be numbered, and then shows the rows from the scroll
on, as many as fit, and nothing else. One of narrow characters stands there as it is, and so do
the marks in the lower border if it has the room for them. -/
theorem replay_window_shown_iff [Url.Domains] (settings : Settings) (inputs : List Dialog.Input) :
    let dialog := ((Dialog.Run.start settings).replay inputs).dialog
    let rows := dialog.rows dialog.pane.width
    let shown := (rows.drop dialog.scroll).take dialog.pane.height
    let marks := markText (0 < dialog.scroll) (dialog.scroll + dialog.pane.height < rows.length)
    dialog.scroll ≤ dialog.maxScroll ∧
      ∀ size : Size, dialog.pane = (pane size).size →
        let window := Window.of dialog (pane size).size
        window.above = dialog.scroll ∧
        (upMark ∈ window.marker ↔ rows.take dialog.scroll ≠ []) ∧
        (downMark ∈ window.marker ↔ rows.drop (dialog.scroll + dialog.pane.height) ≠ []) ∧
        ((draw dialog size).isSome ↔
          Canvas.Numbered (pane size) dialog.scroll (shown.map plainLine)) ∧
        ∀ frame, draw dialog size = some frame →
          (∀ i < dialog.pane.height,
            let style := profileStyle dialog.session.view
            let row := shown[i]?.getD []
            frame.rowIn (pane size) i = some (drawnRow dialog.pane.width style row) ∧
              ((∀ c ∈ row, IsNarrow c) → frame.rowIn (pane size) i =
                some ((row.take dialog.pane.width ++
                  List.replicate (dialog.pane.width - row.length) ' ').map
                    fun c => ⟨[c], style⟩))) ∧
          (dialog.pane.width ≠ 0 ∧ dialog.pane.height ≠ 0 → marks.length ≤ dialog.pane.width →
            (frame[(pane size).y + (pane size).height]?).map Canvas.rowText =
              some (String.ofList ('└' :: (List.replicate (dialog.pane.width - marks.length) '─' ++
                (marks ++ ['┘']))))) := by
  intro dialog rows shown marks
  have bounded : dialog.Bounded := Dialog.Run.replay_bounded settings inputs
  refine ⟨bounded, ?_⟩
  intro size known window
  have same : window = .onRows rows dialog.scroll dialog.pane.height := by
    simp only [window, ← known]
    exact Window.of_bounded bounded
  obtain ⟨up, down⟩ := Window.onRows_marker_iff (dialog.rows_ne_nil dialog.pane.width)
  have drawable := draw_isSome_iff dialog size
  rw [show Window.of dialog (pane size).size = _ from same] at drawable
  rw [same]
  refine ⟨rfl, up, down, drawable, ?_⟩
  intro frame drawn
  have width : dialog.pane.width = (pane size).width := congrArg Size.width known
  have height : dialog.pane.height = (pane size).height := congrArg Size.height known
  constructor
  · intro i inside style row
    have cells := rowIn_pane (height ▸ inside) drawn
    rw [show Window.of dialog (pane size).size = _ from same, ← width] at cells
    exact ⟨cells, fun narrow => cells.trans (congrArg some (drawnRow_of_isNarrow narrow _ _))⟩
  · intro visible room
    have border := lowerBorder_of_drawn drawn (width ▸ height ▸ visible)
    have below : markText (0 < window.above) (0 < window.below) = marks := by
      simp only [same, Window.onRows, marks, Nat.sub_pos_iff_lt]
    dsimp only at border
    rw [show markText _ _ = marks from below, ← width] at border
    exact border room

attribute [local instance] Url.Domains.ascii

theorem replay_toEnd {profile : Json} (size : Size) (orderly : Json.Orderly Json.deepest profile)
    (integral : profile.Integral) :
    let dialog := ((Dialog.Run.start filledSettings).replay (toEnd profile size)).dialog
    dialog.session.profile = some profile ∧ dialog.pane = (pane size).size ∧
      dialog.scroll = dialog.maxScroll := by
  have loaded := Dialog.Run.replay_loading filledSettings "ada@example.org" "A" rfl (by decide)
    (Client.result_sent (by decide +kernel) (Json.handing_orderly "A") (Json.handing_integral "A"))
    rfl (by decide)
    (Client.result_sent (by decide +kernel) orderly integral)
  intro dialog
  have last : dialog = (Dialog.resize (pane size).size ((Dialog.Run.start filledSettings).replay
      (Dialog.Run.loading (Json.handing "A").sent profile.sent)).dialog).scrollToBottom := by
    simp only [dialog, toEnd, Dialog.Run.replay_append]
    rfl
  rw [last, loaded]
  exact ⟨rfl, rfl, rfl⟩

/-- The end of a profile of five rows in a pane of three. -/
theorem replay_window_shown_iff_at_end :
    let dialog := ((Dialog.Run.start filledSettings).replay
      (toEnd (.array [.null, .bool true, .null]) ⟨20, 6⟩)).dialog
    let window := Window.of dialog (pane ⟨20, 6⟩).size
    dialog.pane = (pane ⟨20, 6⟩).size ∧ upMark ∈ window.marker ∧ downMark ∉ window.marker ∧
      ∃ frame, draw dialog ⟨20, 6⟩ = some frame ∧
        frame.rowIn (pane ⟨20, 6⟩) 2 =
          some ((']' :: List.replicate 17 ' ').map fun c => ⟨[c], .field⟩) ∧
        (frame[(pane ⟨20, 6⟩).y + (pane ⟨20, 6⟩).height]?).map Canvas.rowText =
          some "└─── ▲ more [PgUp] ┘" := by
  intro dialog window
  have known : dialog.pane = (pane ⟨20, 6⟩).size := by decide +kernel
  obtain ⟨-, above, below, drawable, cells⟩ :=
    (replay_window_shown_iff filledSettings _).2 ⟨20, 6⟩ known
  obtain ⟨frame, drawn⟩ : ∃ frame, draw dialog ⟨20, 6⟩ = some frame :=
    Option.isSome_iff_exists.mp (by decide +kernel)
  obtain ⟨rows, border⟩ := cells frame drawn
  refine ⟨known, above.mpr ?_, fun mem => below.mp mem ?_, frame, drawn, ?_, ?_⟩
  · decide +kernel
  · decide +kernel
  · refine (rows 2 (by decide +kernel)).1.trans ?_
    decide +kernel
  · refine (border (by decide +kernel) (by decide +kernel)).trans ?_
    decide +kernel

section End
variable {dialog : Dialog} (atEnd : dialog.scroll = dialog.maxScroll)
include atEnd

theorem inView_last_iff_of_end :
    dialog.InView ((dialog.rows dialog.pane.width).length - 1) ↔
      (dialog.rows dialog.pane.width).length ≤ Dialog.lastRow + dialog.pane.height ∧
        dialog.pane.height ≠ 0 := by
  have written := List.length_pos_iff.mpr (dialog.rows_ne_nil dialog.pane.width)
  rw [Dialog.InView, atEnd, Dialog.maxScroll]
  omega

theorem downMark_not_mem_iff_of_end :
    downMark ∉ (Window.of dialog dialog.pane).marker ↔
      (dialog.rows dialog.pane.width).length ≤ Dialog.lastRow + dialog.pane.height := by
  have bounded : dialog.Bounded := Nat.le_of_eq atEnd
  rw [Window.of_bounded bounded, (Window.onRows_marker_iff (dialog.rows_ne_nil _)).2, not_not,
    List.drop_eq_nil_iff, atEnd, Dialog.maxScroll]
  omega

/-- At the end of a profile a frame is drawn only if all rows can be numbered. -/
theorem length_rows_le_of_drawn {size : Size} (known : dialog.pane = (pane size).size)
    (visible : dialog.pane.width ≠ 0 ∧ dialog.pane.height ≠ 0) (drawn : (draw dialog size).isSome) :
    (dialog.rows dialog.pane.width).length ≤ Dialog.lastRow := by
  have bounded : dialog.Bounded := Nat.le_of_eq atEnd
  have width : dialog.pane.width = (pane size).width := congrArg Size.width known
  have height : dialog.pane.height = (pane size).height := congrArg Size.height known
  have numbered := (draw_isSome_iff dialog size).mp drawn
  rw [← known, Window.of_bounded bounded, Canvas.Numbered, ← width, ← height] at numbered
  have within : dialog.scroll + dialog.pane.height ≤ Dialog.lastRow :=
    ((numbered.resolve_left visible.1).resolve_left visible.2).1
  rw [atEnd, Dialog.maxScroll] at within
  omega

end End

/-- The end key brings the last row into a pane of any size, and leaves no mark of rows below it,
just if the rows above the last pane can be counted by the scroll. Wherever a frame is drawn after
it, they can. -/
theorem press_last_shows_end_iff (dialog : Dialog) (pane : Size) :
    let ended := (dialog.resize pane).press .last
    let rows := dialog.rows pane.width
    (ended.InView (rows.length - 1) ↔
        rows.length ≤ Dialog.lastRow + pane.height ∧ pane.height ≠ 0) ∧
      (downMark ∉ (Window.of ended pane).marker ↔
        rows.length ≤ Dialog.lastRow + pane.height) ∧
      ∀ size, pane = (Frame.pane size).size → pane.width ≠ 0 ∧ pane.height ≠ 0 →
        (draw ended size).isSome →
        ended.InView (rows.length - 1) ∧ downMark ∉ (Window.of ended pane).marker := by
  intro ended rows
  have atEnd : ended.scroll = ended.maxScroll := rfl
  have view := inView_last_iff_of_end atEnd
  have mark := downMark_not_mem_iff_of_end atEnd
  refine ⟨view, mark, ?_⟩
  intro size known visible drawn
  have few : rows.length ≤ Dialog.lastRow + pane.height :=
    Nat.le_add_right_of_le (length_rows_le_of_drawn atEnd known visible drawn)
  exact ⟨view.mpr ⟨few, visible.2⟩, mark.mpr few⟩

def zeros (count : Nat) : Json := .array (List.replicate count (.number (.whole 0)))

theorem zeros_orderly (count : Nat) : Json.Orderly Json.deepest (zeros count) := by
  refine .array ?_
  intro item mem
  rw [List.eq_of_mem_replicate mem]
  exact .number (by simp [Json.Number.InRange])

theorem zeros_integral (count : Nat) : (zeros count).Integral := by
  refine .array ?_
  intro item mem
  rw [List.eq_of_mem_replicate mem]
  exact .number 0

theorem le_length_wrap_zeros (width count : Nat) :
    count ≤ (Text.wrap width (zeros count).pretty.toList).length := by
  have feeds := Json.length_le_count_pretty (List.replicate count (.number (.whole 0)))
  rw [List.length_replicate] at feeds
  exact Nat.le_trans feeds (Text.count_le_length_wrap width _)

/-- At the end of many zeros there are as many rows, seen from the dialog. -/
theorem le_length_rows_toEnd (count : Nat) (size : Size) :
    let dialog := ((Dialog.Run.start filledSettings).replay (toEnd (zeros count) size)).dialog
    dialog.pane = (pane size).size ∧ dialog.scroll = dialog.maxScroll ∧
      count ≤ (dialog.rows dialog.pane.width).length := by
  obtain ⟨held, known, atEnd⟩ := replay_toEnd size (zeros_orderly count) (zeros_integral count)
  intro dialog
  refine ⟨known, atEnd, ?_⟩
  rw [Dialog.rows, Session.profileText, held]
  exact le_length_wrap_zeros _ count

/-- A profile of 65,541 items: at its end no frame is drawn, although the scroll is within its
bound. -/
theorem frame_missing_of_long_profile :
    let dialog := ((Dialog.Run.start filledSettings).replay (toEnd (zeros 65541) ⟨80, 30⟩)).dialog
    dialog.pane = (pane ⟨80, 30⟩).size ∧ dialog.scroll ≤ dialog.maxScroll ∧
      draw dialog ⟨80, 30⟩ = none := by
  have reached := le_length_rows_toEnd 65541 ⟨80, 30⟩
  intro dialog
  change dialog.pane = (pane ⟨80, 30⟩).size ∧ dialog.scroll = dialog.maxScroll ∧
    65541 ≤ (dialog.rows dialog.pane.width).length at reached
  clear_value dialog
  obtain ⟨known, atEnd, many⟩ := reached
  have width : dialog.pane.width = 78 := congrArg Size.width known
  have height : dialog.pane.height = 16 := congrArg Size.height known
  refine ⟨known, Nat.le_of_eq atEnd, Option.not_isSome_iff_eq_none.mp fun drawn => ?_⟩
  have few := length_rows_le_of_drawn atEnd known ⟨by omega, by omega⟩ drawn
  exact absurd (Nat.le_trans many few) (by decide)

/-- A profile of 70,000 items: at its end the last row is out of view. -/
theorem lastRow_missed_of_long_profile :
    let dialog := ((Dialog.Run.start filledSettings).replay (toEnd (zeros 70000) ⟨80, 30⟩)).dialog
    1 ≤ dialog.pane.height ∧ dialog.pane = (pane ⟨80, 30⟩).size ∧
      ¬ dialog.InView ((dialog.rows dialog.pane.width).length - 1) := by
  have reached := le_length_rows_toEnd 70000 ⟨80, 30⟩
  intro dialog
  change dialog.pane = (pane ⟨80, 30⟩).size ∧ dialog.scroll = dialog.maxScroll ∧
    70000 ≤ (dialog.rows dialog.pane.width).length at reached
  clear_value dialog
  obtain ⟨known, atEnd, many⟩ := reached
  have height : dialog.pane.height = 16 := congrArg Size.height known
  have limit : Dialog.lastRow = 65535 := rfl
  rw [inView_last_iff_of_end atEnd]
  exact ⟨by omega, known, by omega⟩

end ProfileClient.Frame
