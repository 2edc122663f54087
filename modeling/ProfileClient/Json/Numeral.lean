import ProfileClient.Json.Lexeme
/-!
Numerals of JSON. Digits alone stand for a whole number as long as it fits 64 bits. Every other
numeral is cut to the first digits that fit and stands for the binary64 number this decimal is
taken for.
-/
namespace ProfileClient.Json

/-- A numeral as far as its digits fit 64 bits: a sign, the first digits as one number, and the
power of ten that places them. -/
structure Numeral where
  negative : Bool
  significand : Nat
  scale : Int
  /-- Written without a point and without an exponent, all digits in the significand. -/
  plain : Bool
deriving DecidableEq, Repr

/-- The number a numeral stands for; `none` beyond every range. Negative zero is not whole. -/
def Numeral.number? (n : Numeral) : Option Number :=
  if n.plain && !n.negative then some (.whole n.significand)
  else if n.plain && 0 < n.significand && n.significand ≤ UInt64.size / 2 then
    some (.whole (-n.significand))
  else (Binary64.ofDecimal? n.negative n.significand n.scale).map .real

/-- Continues the number `value` by one decimal digit. -/
def appendDigit (value : Nat) (c : Char) : Nat := value * 10 + (c.toNat - '0'.toNat)

/-- An exponent that carries any number but zero out of range, or leaves nothing of it. -/
def farExponent : Nat := Int32.size / 2 - 1

/-- The exponent that digits stand for; beyond the far one all are the same. -/
def exponent (digits : List Char) : Nat :=
  digits.foldl (fun value c => min (appendDigit value c) farExponent) 0

/-- Continues the number `value` by digits for as long as it fits 64 bits, and counts the digits
left over from the first that does not fit. -/
def gather (value : Nat) : (digits : List Char) → Nat × Nat
  | [] => (value, 0)
  | c :: rest =>
    if appendDigit value c < UInt64.size then gather (appendDigit value c) rest
    else (value, rest.length + 1)

theorem le_foldl_appendDigit (value : Nat) (digits : List Char) :
    value ≤ digits.foldl appendDigit value := by
  induction digits generalizing value with
  | nil => exact Nat.le_refl value
  | cons c rest ih =>
    have step : value ≤ appendDigit value c := by
      unfold appendDigit
      omega
    exact Nat.le_trans step (ih (appendDigit value c))

/-- Digits that fit are all taken. -/
theorem gather_of_lt {value : Nat} {digits : List Char}
    (h : digits.foldl appendDigit value < UInt64.size) :
    gather value digits = (digits.foldl appendDigit value, 0) := by
  induction digits generalizing value with
  | nil => rfl
  | cons c rest ih =>
    have fits : appendDigit value c < UInt64.size :=
      Nat.lt_of_le_of_lt (le_foldl_appendDigit (appendDigit value c) rest) h
    rw [gather, if_pos fits]
    exact ih h

def leadingDigits (text : List Char) : List Char := text.takeWhile Char.isDigit
def afterDigits (text : List Char) : List Char := text.dropWhile Char.isDigit

theorem length_afterDigits_le (text : List Char) : (afterDigits text).length ≤ text.length :=
  (List.dropWhile_sublist Char.isDigit).length_le

/-- The sign of an exponent, if one is written, and what follows it. -/
def exponentSign : List Char → Bool × List Char
  | '+' :: rest => (false, rest)
  | '-' :: rest => (true, rest)
  | text => (false, text)

theorem length_exponentSign_le (text : List Char) :
    (exponentSign text).2.length ≤ text.length := by
  unfold exponentSign
  split <;> simp

/-- The fault of a text without a digit where one must stand. -/
def missingDigit (text : List Char) : Fault :=
  if text.isEmpty then .truncated else .malformed

def exponentPart {origin : List Char} (numeral : Numeral) (text : List Char)
    (h : text.length < origin.length) : Reading Numeral origin :=
  match text with
  | [] => .ok (numeral, ⟨[], h⟩)
  | c :: rest =>
    if c = 'e' ∨ c = 'E' then
      let sign := exponentSign rest
      let power := leadingDigits sign.2
      if power.isEmpty then .error (missingDigit sign.2)
      else
        let amount : Int := if sign.1 then -exponent power else exponent power
        .ok ({ numeral with scale := numeral.scale + amount, plain := false },
          ⟨afterDigits sign.2, by
            have h₁ := length_afterDigits_le sign.2
            have h₂ := length_exponentSign_le rest
            simp only [sign, List.length_cons] at *
            omega⟩)
    else .ok (numeral, ⟨c :: rest, h⟩)

/-- The whole part of a numeral; each digit left over counts as a zero. -/
def wholePart (negative : Bool) (digits : List Char) : Numeral :=
  let gathered := gather 0 digits
  ⟨negative, gathered.1, gathered.2, gathered.2 = 0⟩

/-- Continues a numeral by the digits of its fraction; those left over count for nothing. -/
def Numeral.withFraction (n : Numeral) (digits : List Char) : Numeral :=
  let gathered := gather n.significand digits
  { n with
    significand := gathered.1
    scale := n.scale - (digits.length - gathered.2)
    plain := false }

def fractionPart {origin : List Char} (numeral : Numeral) (text : List Char)
    (h : text.length < origin.length) : Reading Numeral origin :=
  match text with
  | [] => .ok (numeral, ⟨[], h⟩)
  | c :: rest =>
    if c = '.' then
      let fraction := leadingDigits rest
      if fraction.isEmpty then .error (missingDigit rest)
      else
        exponentPart (numeral.withFraction fraction) (afterDigits rest) (by
          have := length_afterDigits_le rest
          simp only [List.length_cons] at h
          omega)
    else exponentPart numeral (c :: rest) h

/-- The numeral after its sign. A leading zero stands alone. -/
def unsigned {origin : List Char} (negative : Bool) (text : List Char)
    (h : text.length ≤ origin.length) : Reading Numeral origin :=
  match text with
  | [] => .error .truncated
  | c :: rest =>
    if c = '0' then
      if (leadingDigits rest).isEmpty then fractionPart (wholePart negative [c]) rest h
      else .error .malformed
    else if c.isDigit then
      fractionPart (wholePart negative (c :: leadingDigits rest)) (afterDigits rest)
        (Nat.lt_of_le_of_lt (length_afterDigits_le rest) h)
    else .error .malformed

def numeral : Reader Numeral
  | '-' :: rest => unsigned true rest (length_le_cons '-' rest)
  | text => unsigned false text (length_le_self text)

def strictNumber : Reader Number := fun text =>
  match numeral text with
  | .error fault => .error fault
  | .ok (n, rest) =>
    match n.number? with
    | some value => .ok (value, rest)
    | none => .error .malformed

end ProfileClient.Json
