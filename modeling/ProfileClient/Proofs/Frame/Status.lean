import ProfileClient.Proofs.Dialog.Cause
import ProfileClient.Proofs.Dialog.Notice
import ProfileClient.Proofs.Frame.Canvas
/-!
The notice in the status bar. Its style tells a failed call from anything else, and whether a call
is under way. A fetch that was refused and a login without a token are failures too, but look like
what went well as soon as nothing is under way.
-/
namespace ProfileClient

theorem Notice.text_isNarrow (notice : Notice) : ∀ c ∈ notice.text.toList, Frame.IsNarrow c := by
  have all : (Notice.all.all fun notice => notice.text.toList.all (Frame.IsNarrow ·)) = true := by
    decide +kernel
  have own := List.all_eq_true.mp all notice notice.mem_all
  simpa only [List.all_eq_true, decide_eq_true_eq] using own

namespace Frame

theorem Heights.status_pos {height : Nat} (high : 6 ≤ height) : 0 < (of height).status := by
  unfold of
  split <;> try decide
  rw [if_neg (by omega)]
  split <;> exact Nat.two_pos

theorem Layout.status_lt {size : Size} (high : 6 ≤ size.height) :
    (of size).status.y < size.height := by
  have sum := Heights.sum_of size.height
  have visible := Heights.status_pos high
  simp only [of]
  omega

/-- The row starts with a text in the colour of a style, as far as the row goes. -/
def StartsWith (text : List Char) (style : Style) (row : List Cell) : Prop :=
  ∀ (i : Nat) (c : Char) (cell : Cell), text[i]? = some c → row[i]? = some cell →
    cell.symbol = [c] ∧ cell.style.foreground = style.foreground

theorem startsWith_overlay {text : List Char} {style : Style} (coloured : style.foreground.isSome)
    (rest : List Glyph) {width : Nat} {cells : List Cell} (whole : cells.length = width) :
    StartsWith text style (overlay (fitting width 0 (narrowGlyphs style text ++ rest)) cells) := by
  intro i c cell char drawn
  have inRow : i < cells.length := by
    have := (List.getElem?_eq_some_iff.mp drawn).1
    rwa [length_overlay] at this
  rw [getElem?_overlay_narrow char (by omega) (List.getElem?_eq_getElem inRow)] at drawn
  cases drawn
  refine ⟨rfl, ?_⟩
  obtain ⟨colour, set⟩ := Option.isSome_iff_exists.mp coloured
  simp [Cell.draw, Style.under, set]

/-- Narrow characters cover no cell behind them. -/
theorem StartsWith.shownRow {text : List Char} {style : Style} {row : List Cell}
    (narrow : ∀ c ∈ text, IsNarrow c) (starts : StartsWith text style row) :
    StartsWith text style (Canvas.shownRow false row) := by
  intro i c cell char shown
  refine starts i c cell char ?_
  rw [← shown, Canvas.getElem?_shownRow]
  intro j before below found
  have known := (List.getElem?_eq_some_iff.mp char).1
  have inText : text[j]? = some text[j] := List.getElem?_eq_getElem (by omega)
  rw [(starts j _ before inText found).1, Text.columns_singleton]
  exact Nat.le_of_eq (narrow _ (List.getElem_mem _)).2

/-- The text of a notice with the blanks around it. -/
def barText (notice : Notice) : List Char := ' ' :: notice.text.toList ++ [' ']

theorem barText_isNarrow (notice : Notice) : ∀ c ∈ barText notice, IsNarrow c := by
  have blank : IsNarrow ' ' := by decide +kernel
  intro c mem
  simp only [barText, List.cons_append, List.mem_cons, List.mem_append, List.not_mem_nil,
    or_false] at mem
  rcases mem with rfl | mem | rfl
  · exact blank
  · exact notice.text_isNarrow c mem
  · exact blank

theorem noticeStyle_failed (error : SessionError) (inFlight : Nat) :
    noticeStyle (.failed error) inFlight = .error := by
  have begins : "Error".toList.isPrefixOf (Notice.failed error).text.toList = true := by
    rw [Notice.text, String.toList_append]
    rfl
  rw [noticeStyle, if_pos begins]

theorem noticeStyle_foreground (notice : Notice) (inFlight : Nat) :
    (noticeStyle notice inFlight).foreground.isSome := by
  unfold noticeStyle
  split_ifs <;> rfl

theorem glyphs_statusLine (notice : Notice) (inFlight width : Nat) :
    ∃ rest, Line.glyphs (statusLine (some notice) inFlight width) =
      narrowGlyphs (noticeStyle notice inFlight) (barText notice) ++ rest := by
  have text : (statusSpan (some notice) inFlight) =
      ⟨barText notice, noticeStyle notice inFlight⟩ := by
    simp [statusSpan, span, barText, toString]
  rw [statusLine, Line.glyphs_cons, text, Line.glyphs_of_isNarrow _ (barText_isNarrow notice)]
  exact ⟨_, rfl⟩

/-- The first row of the status bar, drawn at the left edge of a canvas. -/
theorem drawStatus_row {dialog : Dialog} {notice : Notice} (noticed : dialog.notice = some notice)
    {area : Area} (left : area.x = 0) (visible : 0 < area.height) {canvas : Canvas} {height : Nat}
    (shape : canvas.widths = List.replicate height area.width) (inside : area.y < height) :
    ∃ row, (drawStatus dialog area canvas)[area.y]? = some row ∧ row.length = area.width ∧
      StartsWith (barText notice) (noticeStyle notice dialog.inFlight) row := by
  rw [← Canvas.widths_paint canvas area .statusBar] at shape
  obtain ⟨row, found, whole⟩ := Canvas.exists_row shape inside
  obtain ⟨rest, glyphs⟩ := glyphs_statusLine notice dialog.inFlight area.width
  have drawn : (drawStatus dialog area canvas)[area.y]? = some _ :=
    Canvas.getElem?_putLines (i := 0) visible rfl found
  rw [← noticed] at glyphs
  rw [glyphs, left] at drawn
  refine ⟨_, drawn, ?_, startsWith_overlay (noticeStyle_foreground ..) rest whole⟩
  rw [length_onward_overlay, whole]

/-- The status bar of a screen of a size starts with a notice in the colour of a style. -/
def ShowsNotice (shown : Canvas) (size : Size) (notice : Notice) (style : Style) : Prop :=
  ∃ row, shown[(Layout.of size).status.y]? = some row ∧ row.length = size.width ∧
    StartsWith (barText notice) style row

theorem showsNotice_of_notice {dialog : Dialog} {notice : Notice}
    (noticed : dialog.notice = some notice) {size : Size} (high : 6 ≤ size.height) {shown : Canvas}
    (drawn : screen dialog size = some shown) :
    ShowsNotice shown size notice (noticeStyle notice dialog.inFlight) := by
  obtain ⟨frame, framed, rfl⟩ := Option.map_eq_some_iff.mp drawn
  obtain ⟨canvas, profile, rfl⟩ := Option.map_eq_some_iff.mp framed
  have shape : canvas.widths = List.replicate size.height size.width := by
    rw [widths_of_drawProfile _ _ _ profile]
    simp
  obtain ⟨row, found, whole, starts⟩ :=
    drawStatus_row noticed rfl (Heights.status_pos high) shape (Layout.status_lt high)
  refine ⟨Canvas.shownRow false row, ?_, ?_, starts.shownRow (barText_isNarrow notice)⟩
  · rw [Canvas.shown, List.getElem?_map]
    exact congrArg (Option.map (Canvas.shownRow false)) found
  · rw [Canvas.length_shownRow, whole]
    rfl

theorem StartsWith.foreground_eq {text : List Char} {first second : Style} {row : List Cell}
    (one : StartsWith text first row) (other : StartsWith text second row) (said : text ≠ [])
    (wide : row ≠ []) : first.foreground = second.foreground := by
  obtain ⟨c, text, rfl⟩ := List.exists_cons_of_ne_nil said
  obtain ⟨cell, row, rfl⟩ := List.exists_cons_of_ne_nil wide
  exact (one 0 c cell rfl rfl).2.symm.trans (other 0 c cell rfl rfl).2

/-- The colour of a notice tells the style that it has. -/
theorem showsNotice_iff {dialog : Dialog} {notice : Notice} (noticed : dialog.notice = some notice)
    {size : Size} (high : 6 ≤ size.height) (wide : 1 ≤ size.width) {shown : Canvas}
    (drawn : screen dialog size = some shown) (style : Style) :
    ShowsNotice shown size notice style ↔
      style.foreground = (noticeStyle notice dialog.inFlight).foreground := by
  obtain ⟨row, found, whole, starts⟩ := showsNotice_of_notice noticed high drawn
  constructor
  · rintro ⟨again, same, -, other⟩
    cases found.symm.trans same
    refine other.foreground_eq starts (List.cons_ne_nil _ _) ?_
    rintro rfl
    exact absurd whole.symm (Nat.ne_of_gt wide)
  · intro same
    refine ⟨row, found, whole, fun i c cell char drawn => ?_⟩
    rw [same]
    exact starts i c cell char drawn

theorem noticeStyle_of_isFailedCall {cause : Dialog.Cause} (failed : cause.IsFailedCall)
    (inFlight : Nat) : noticeStyle cause.notice inFlight = .error := by
  obtain ⟨error, same⟩ := Dialog.Cause.notice_of_isFailedCall failed
  rw [same, noticeStyle_failed]

theorem noticeStyle_of_lacksToken {cause : Dialog.Cause} (lacks : cause.LacksToken)
    (inFlight : Nat) :
    noticeStyle cause.notice inFlight = if inFlight = 0 then .success else .muted := by
  rcases Dialog.Cause.notice_of_lacksToken lacks with same | same
  · rw [same]
    rfl
  · rw [same]
    rfl

/-- In every state of every run whose notice tells of a failure, on every screen with a status bar
that is drawn: the notice of a failed call is an error. One for lack of a token is none, and has
the style of what went well just if no call is under way. -/
theorem replay_failure_shown_iff [Url.Domains] (settings : Settings) (inputs : List Dialog.Input)
    {cause : Dialog.Cause}
    (last : ((Dialog.Run.start settings).causes inputs).getLast? = some cause)
    (failure : cause.IsFailure) {size : Size} (high : 6 ≤ size.height) (wide : 1 ≤ size.width) :
    let dialog := ((Dialog.Run.start settings).replay inputs).dialog
    ∀ shown, screen dialog size = some shown →
      (ShowsNotice shown size cause.notice .error ↔ cause.IsFailedCall) ∧
        (ShowsNotice shown size cause.notice .success ↔ cause.LacksToken ∧ dialog.inFlight = 0) ∧
        (ShowsNotice shown size cause.notice .muted ↔ cause.LacksToken ∧ dialog.inFlight ≠ 0) := by
  intro dialog shown drawn
  have noticed : dialog.notice = some cause.notice := by
    rw [Dialog.Run.replay_notice, last]
    rfl
  rw [showsNotice_iff noticed high wide drawn, showsNotice_iff noticed high wide drawn,
    showsNotice_iff noticed high wide drawn]
  have apart : Style.error.foreground ≠ Style.success.foreground ∧
      Style.error.foreground ≠ Style.muted.foreground ∧
      Style.success.foreground ≠ Style.muted.foreground := by decide
  rcases failure with failed | lacks
  · have held : ¬ cause.LacksToken := fun lacks => lacks.not_isFailedCall failed
    simp [noticeStyle_of_isFailedCall failed, failed, held, apart.1.symm, apart.2.1.symm]
  · have called := lacks.not_isFailedCall
    rw [noticeStyle_of_lacksToken lacks]
    split
    · next idle => simp [idle, lacks, called, apart.1, apart.2.2.symm]
    · next busy => simp [busy, lacks, called, apart.2.1, apart.2.2]

attribute [local instance] Url.Domains.ascii

/-- A fetch is refused while a login is under way. -/
theorem refusal_muted_of_login_under_way :
    let settings : Settings := ⟨"http://localhost:8000", some "ada@example.org", none, none, none⟩
    let inputs : List Dialog.Input := [.press .down, .press .enter, .press .down, .press .enter]
    let dialog := ((Dialog.Run.start settings).replay inputs).dialog
    ((Dialog.Run.start settings).causes inputs).getLast? = some .refused ∧ dialog.inFlight = 1 ∧
      ∃ shown, screen dialog ⟨80, 24⟩ = some shown ∧
        ShowsNotice shown ⟨80, 24⟩ .notLoggedIn .muted ∧
        ¬ ShowsNotice shown ⟨80, 24⟩ .notLoggedIn .success := by
  intro settings inputs dialog
  have last : ((Dialog.Run.start settings).causes inputs).getLast? = some .refused := rfl
  have busy : dialog.inFlight = 1 := rfl
  have high : 6 ≤ (Size.mk 80 24).height := by decide
  obtain ⟨shown, drawn⟩ : ∃ shown, screen dialog ⟨80, 24⟩ = some shown :=
    Option.isSome_iff_exists.mp (by decide +kernel)
  obtain ⟨-, success, muted⟩ :=
    replay_failure_shown_iff settings inputs last (.inr trivial) high (by decide) shown drawn
  refine ⟨last, busy, shown, drawn, muted.mpr ⟨trivial, ?_⟩, fun shown => ?_⟩
  · exact Nat.ne_of_gt (Nat.le_of_eq busy.symm)
  · exact Nat.one_ne_zero (busy.symm.trans (success.mp shown).2)

/-- A fetch that is refused while nothing is under way looks like what went well. -/
theorem refusal_shown_as_success :
    let settings : Settings := ⟨"http://localhost:8000", none, none, none, none⟩
    let inputs : List Dialog.Input := [.press .up, .press .enter]
    let dialog := ((Dialog.Run.start settings).replay inputs).dialog
    ∃ cause shown, ((Dialog.Run.start settings).causes inputs).getLast? = some cause ∧
      cause.IsFailure ∧ screen dialog ⟨80, 24⟩ = some shown ∧
      ShowsNotice shown ⟨80, 24⟩ cause.notice .success := by
  intro settings inputs dialog
  obtain ⟨shown, drawn⟩ : ∃ shown, screen dialog ⟨80, 24⟩ = some shown :=
    Option.isSome_iff_exists.mp (by decide +kernel)
  exact ⟨.refused, shown, rfl, .inr trivial, drawn, showsNotice_of_notice rfl (by decide) drawn⟩

end Frame
end ProfileClient
