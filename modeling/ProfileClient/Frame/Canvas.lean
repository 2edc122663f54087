import ProfileClient.Frame.Content
import ProfileClient.Frame.Layout
import ProfileClient.Text.Cluster
import ProfileClient.Text.Columns
/-!
The cells of a screen. A frame is painted: what is drawn later lies over what was drawn before, and
a style changes only the properties it sets.
-/
namespace ProfileClient.Frame

structure Cell where
  symbol : List Char
  style : Style
deriving DecidableEq, Repr

def Cell.blank : Cell := ⟨[' '], .plain⟩

def Cell.draw (symbol : List Char) (style : Style) (cell : Cell) : Cell :=
  ⟨symbol, style.under cell.style⟩

abbrev Canvas := List (List Cell)

structure Glyph where
  symbol : List Char
  columns : Nat
  style : Style
deriving DecidableEq, Repr

/-- The glyphs of a line, span by span. A line feed draws nothing. -/
def Line.glyphs (line : Line) : List Glyph :=
  line.flatMap fun span =>
    ((Text.clusters span.text).filter (· ≠ ['\n'])).map fun symbol =>
      ⟨symbol, Text.columns symbol, span.style⟩

/-- The glyphs that are drawn within a width, from column `x` on. A glyph wider than the whole width
and one without columns are left out; the first that does not fit ends the line. -/
def fitting (width : Nat) (x : Nat) : List Glyph → List Glyph
  | [] => []
  | glyph :: rest =>
    if width < glyph.columns then fitting width x rest
    else if width < x + glyph.columns then []
    else if glyph.columns = 0 then fitting width x rest
    else glyph :: fitting width (x + glyph.columns) rest

/-- Draws glyphs in cells, one behind the other. A glyph stands in its first cell and leaves the
others that it covers as they are. -/
def overlay : List Glyph → List Cell → List Cell
  | [], cells => cells
  | _ :: _, [] => []
  | glyph :: rest, cell :: cells =>
    cell.draw glyph.symbol glyph.style ::
      (cells.take (glyph.columns - 1) ++ overlay rest (cells.drop (glyph.columns - 1)))

/-- Changes all items from `start` on. -/
def onward {α : Type} (start : Nat) (change : List α → List α) (items : List α) : List α :=
  items.take start ++ change (items.drop start)

/-- Changes each of `count` items from `start` on. -/
def along {α : Type} (start count : Nat) (change : α → α) (items : List α) : List α :=
  items.mapIdx fun i item => if start ≤ i ∧ i < start + count then change item else item

namespace Canvas

def blank (size : Size) : Canvas :=
  List.replicate size.height (List.replicate size.width .blank)

def put (x y : Nat) (symbol : Char) (style : Style) (canvas : Canvas) : Canvas :=
  canvas.modify y (·.modify x (.draw [symbol] style))

def paint (area : Area) (style : Style) (canvas : Canvas) : Canvas :=
  along area.y area.height
    (along area.x area.width fun cell => { cell with style := style.under cell.style }) canvas

/-- Draws glyphs in one row, from column `x` on. -/
def putGlyphs (x y : Nat) (glyphs : List Glyph) (canvas : Canvas) : Canvas :=
  canvas.modify y (onward x (overlay glyphs))

/-- Draws lines in rows, one each, from column `x` on and within a width. -/
def overlayLines (x width : Nat) : List Line → Canvas → Canvas
  | line :: lines, row :: rows =>
    onward x (overlay (fitting width 0 line.glyphs)) row :: overlayLines x width lines rows
  | _, rows => rows

/-- Draws lines from the top of an area, one row each, as far as they fit. -/
def putLines (area : Area) (lines : List Line) (canvas : Canvas) : Canvas :=
  onward area.y (overlayLines area.x area.width (lines.take area.height)) canvas

/-- Whether lines can be drawn, the first one as line number `first`: the number of a line that
draws anything has to be one of a row. -/
def numbered (width : Nat) (first : Nat) : List Line → Bool
  | [] => true
  | line :: lines =>
    ((fitting width 0 line.glyphs).isEmpty || first ≤ Dialog.lastRow) &&
      numbered width (first + 1) lines

/-- Draws the lines of a text from line `scroll` on. The end of the area is numbered from the start
of the text, and a line from the top of the screen on; where such a number exceeds that of the last
row, the program stops and there is no canvas. -/
def putScrolled? (area : Area) (scroll : Nat) (lines : List Line) (canvas : Canvas) :
    Option Canvas :=
  if area.width = 0 ∨ area.height = 0 ∨ scroll + area.height ≤ Dialog.lastRow ∧
      numbered area.width (area.y + scroll) (lines.take area.height) then
    some (canvas.putLines area lines)
  else none

def putAcross (x y count : Nat) (symbol : Char) (style : Style) (canvas : Canvas) : Canvas :=
  canvas.modify y (along x count (.draw [symbol] style))

def putDown (x y count : Nat) (symbol : Char) (style : Style) (canvas : Canvas) : Canvas :=
  along y count (·.modify x (.draw [symbol] style)) canvas

/-- Draws a border around an area; where sides and corners meet, the corner drawn last stays. -/
def border (area : Area) (style : Style) (canvas : Canvas) : Canvas :=
  if area.width = 0 ∨ area.height = 0 then canvas
  else
    let right := area.x + area.width - 1
    let bottom := area.y + area.height - 1
    canvas
      |>.putDown area.x area.y area.height '│' style
      |>.putAcross area.x area.y area.width '─' style
      |>.putDown right area.y area.height '│' style
      |>.putAcross area.x bottom area.width '─' style
      |>.put right bottom '┘' style
      |>.put right area.y '┐' style
      |>.put area.x bottom '└' style
      |>.put area.x area.y '┌' style

def topTitle (area : Area) (title : Line) (canvas : Canvas) : Canvas :=
  if area.height = 0 then canvas
  else canvas.putGlyphs (area.x + 1) area.y (fitting (area.width - 2) 0 title.glyphs)

/-- Draws a title on the lower border, up to its right end; one that is too long loses its
start. -/
def bottomTitle (area : Area) (title : Line) (canvas : Canvas) : Canvas :=
  if area.height = 0 then canvas
  else
    let width := area.width - 2
    let glyphs := title.glyphs
    let shown := glyphs.drop (glyphs.length - width)
    canvas.putGlyphs (area.x + 1 + (width - shown.length)) (area.y + area.height - 1)
      (fitting width 0 shown)

/-- A row as a terminal shows it. A symbol of more than one column lies over the cell behind it,
which is not drawn and stays blank. -/
def shownRow (covered : Bool) : List Cell → List Cell
  | [] => []
  | cell :: rest =>
    (if covered then .blank else cell) :: shownRow (1 < Text.columns cell.symbol) rest

def shown (canvas : Canvas) : Canvas := canvas.map (shownRow false)

@[simp]
theorem length_shownRow (covered : Bool) (row : List Cell) :
    (shownRow covered row).length = row.length := by
  induction row generalizing covered with
  | nil => rfl
  | cons cell rest ih => simp [shownRow, ih]

def rowText (row : List Cell) : String := String.ofList (row.flatMap (·.symbol))

end Canvas
end ProfileClient.Frame
