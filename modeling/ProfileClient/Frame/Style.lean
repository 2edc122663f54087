/-!
Styles of terminal cells and the palette of the dialog. A style may leave a property unset; put over
another style it changes only what it sets.
-/
namespace ProfileClient.Frame

inductive Colour where
  | white
  | rgb (red green blue : Nat)
deriving DecidableEq, Repr

structure Style where
  foreground : Option Colour
  background : Option Colour
  bold : Bool
deriving DecidableEq, Repr

namespace Style

def plain : Style := ⟨none, none, false⟩

/-- The style of a cell after `style` was put over it. -/
def under (style : Style) (cell : Style) : Style where
  foreground := style.foreground.or cell.foreground
  background := style.background.or cell.background
  bold := style.bold || cell.bold

@[simp]
theorem under_plain (style : Style) : style.under plain = style := by
  simp [under, plain]

def primary : Colour := .rgb 64 128 192
def secondary : Colour := .rgb 96 160 96
def accent : Colour := .rgb 192 160 64
def alarm : Colour := .rgb 192 64 64
def grey : Colour := .rgb 128 128 128
def highlight : Colour := .rgb 48 48 64
def bar : Colour := .rgb 32 32 40

def title : Style := ⟨some primary, none, true⟩
def selected : Style := ⟨none, some highlight, true⟩
def field : Style := ⟨some .white, none, false⟩
def muted : Style := ⟨some grey, none, false⟩
def key : Style := ⟨some accent, none, true⟩
def success : Style := ⟨some secondary, none, false⟩
def error : Style := ⟨some alarm, none, false⟩
def activeBorder : Style := ⟨some primary, none, false⟩
def statusBar : Style := ⟨some .white, some bar, false⟩

end Style
end ProfileClient.Frame
