import ProfileClient.Decimal.Binary64
/-!
The shortest decimal whose nearest binary64 number is a given one. The reals that round to the
number form an interval around it; for one digit, two digits and so on the two decimals next to
the number are tested against the interval. The first count with a hit wins, and of two hits the
nearer.
-/
namespace ProfileClient.Binary64

structure Decimal where
  digits : Nat
  scale : Int
deriving DecidableEq, Repr

def leadingDigit (mantissa : Nat) (exponent : Int) : Int :=
  let guess : Int := ((mantissa.log2 + exponent) * 30103) / 100000
  let value (k : Int) : Nat × Nat :=
    let scaled := rescale mantissa 1 (-exponent)
    if 0 ≤ k then (scaled.1, scaled.2 * Nat.pow 10 k.toNat)
    else (scaled.1 * Nat.pow 10 (-k).toNat, scaled.2)
  let reaches (k : Int) : Bool := (value k).2 ≤ (value k).1
  if !reaches guess then guess - 1 else if reaches (guess + 1) then guess + 1 else guess

/-- The decimal on the grid `10 ^ scale` that rounds to the number and lies nearest to it. -/
def onGrid? (mantissa : Nat) (exponent : Int) (scale : Int) : Option Nat :=
  let binary := exponent - 2
  let unit := Nat.pow 2 binary.toNat * Nat.pow 10 (-scale).toNat
  let grid := Nat.pow 2 (-binary).toNat * Nat.pow 10 scale.toNat
  let value := 4 * mantissa * unit
  let below := if mantissa = Nat.pow 2 52 ∧ leastExponent < exponent then 1 else 2
  let low := (4 * mantissa - below) * unit
  let high := (4 * mantissa + 2) * unit
  let inside (x : Nat) : Bool :=
    if mantissa % 2 = 0 then low ≤ x && x ≤ high else low < x && x < high
  let floor := value / grid
  match inside (floor * grid), inside ((floor + 1) * grid) with
  | false, false => none
  | true, false => some floor
  | false, true => some (floor + 1)
  | true, true => some (roundEven value grid)

/-- Tries `tries` more digit counts, from the grid `scale` on to finer ones. -/
def search (mantissa : Nat) (exponent : Int) : Nat → Int → Decimal
  | 0, scale => ⟨(onGrid? mantissa exponent scale).getD 0, scale⟩
  | tries + 1, scale =>
    match onGrid? mantissa exponent scale with
    | some digits => ⟨digits, scale⟩
    | none => search mantissa exponent tries (scale - 1)

/-- Moves the zeros at the end of the digits into the scale. -/
def Decimal.stripZeros : Nat → Decimal → Decimal
  | 0, d => d
  | fuel + 1, d =>
    if d.digits ≠ 0 ∧ d.digits % 10 = 0 then stripZeros fuel ⟨d.digits / 10, d.scale + 1⟩ else d

/-- The shortest decimal that rounds to the number; seventeen digits always do. -/
def shortest (x : Binary64) : Decimal :=
  if x.mantissa = 0 then ⟨0, 0⟩
  else (search x.mantissa x.exponent 16 (leadingDigit x.mantissa x.exponent)).stripZeros 18

end ProfileClient.Binary64
