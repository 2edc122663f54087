import ProfileClient.Frame.Canvas
/-!
Drawing a dialog: the title with a rule below it, the form and the profile in boxes, and the status
bar.
-/
namespace ProfileClient.Frame

/-- The title in the first row, a rule in the last; a single row holds the rule. -/
def drawTitle (dialog : Dialog) (area : Area) (canvas : Canvas) : Canvas :=
  if area.height = 0 then canvas
  else
    canvas
      |>.putAcross area.x (area.y + area.height - 1) area.width '─' .muted
      |>.putLines { area with height := area.height - 1 } [titleLine dialog area.width]

def drawForm (dialog : Dialog) (area : Area) (canvas : Canvas) : Canvas :=
  canvas
    |>.border area .activeBorder
    |>.topTitle area [span .plain " Login "]
    |>.putLines area.inside (formLines dialog.session.view dialog.focus)

def drawProfile (dialog : Dialog) (area : Area) (canvas : Canvas) : Option Canvas :=
  let window := Window.of dialog area.inside.size
  canvas
    |>.paint area (profileStyle dialog.session.view)
    |>.border area .muted
    |>.topTitle area [span .plain " Profile "]
    |>.bottomTitle area window.marker
    |>.putScrolled? area.inside window.above window.lines

def drawStatus (dialog : Dialog) (area : Area) (canvas : Canvas) : Canvas :=
  canvas
    |>.paint area .statusBar
    |>.putLines area [statusLine dialog.notice dialog.inFlight area.width]

/-- The frame of a dialog on a screen of a size; `none` if the program stops over it. -/
def draw (dialog : Dialog) (size : Size) : Option Canvas :=
  let layout := Layout.of size
  let form := Canvas.blank size
    |> drawTitle dialog layout.title
    |> drawForm dialog layout.form
  (drawProfile dialog layout.profile form).map (drawStatus dialog layout.status)

def screen (dialog : Dialog) (size : Size) : Option Canvas :=
  (draw dialog size).map Canvas.shown

structure StyleRun where
  count : Nat
  style : Style
deriving DecidableEq, Repr

def styleRuns (row : List Cell) : List StyleRun :=
  row.foldr
    (fun cell runs =>
      match runs with
      | [] => [⟨1, cell.style⟩]
      | run :: rest =>
        if run.style = cell.style then ⟨run.count + 1, run.style⟩ :: rest
        else ⟨1, cell.style⟩ :: run :: rest) []

end ProfileClient.Frame
