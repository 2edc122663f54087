import ProfileClient.Proofs.Json.Lexeme
/-!
Whole numbers read back: the digits of a number within the ranges of 64 bits give that number, as
long as nothing after them continues a numeral. Whatever numeral is read, its digits fit 64 bits.
-/
namespace ProfileClient.Json

/-- Whole numbers that fit 64 bits, with or without a sign. -/
def Number.InRange : Number → Prop
  | .whole i => -(UInt64.size / 2 : Nat) ≤ i ∧ i < UInt64.size
  | .real _ => True

theorem isDigit_of_mem_natural {n : Nat} {c : Char} (mem : c ∈ natural n) : c.isDigit = true :=
  Nat.isDigit_of_mem_toDigits (by decide) (by decide) mem

theorem foldl_appendDigit_natural (n : Nat) : (natural n).foldl appendDigit 0 = n := by
  have same : appendDigit = fun value c => 10 * value + (c.toNat - '0'.toNat) := by
    funext value c
    rw [appendDigit, Nat.mul_comm]
  rw [same, ← Nat.ofDigitChars_eq_foldl]
  exact Nat.ofDigitChars_toDigits (by decide) (by decide)

/-- A number but zero starts with another digit than zero. -/
theorem natural_eq_cons {n : Nat} (positive : 0 < n) :
    ∃ c digits, natural n = c :: digits ∧ c.isDigit = true ∧ c ≠ '0' := by
  induction n using Nat.strongRecOn with
  | ind n ih =>
      by_cases small : n < 10
      · have digit : natural n = [n.digitChar] := Nat.toDigits_of_lt_base small
        refine ⟨n.digitChar, [], digit, by simp [small], ?_⟩
        intro zero
        rw [Nat.digitChar_eq_zero] at zero
        omega
      · obtain ⟨c, digits, split, digit, nonzero⟩ := ih (n / 10) (by omega) (by omega)
        have unfolded : natural n = natural (n / 10) ++ [(n % 10).digitChar] :=
          Nat.toDigits_of_base_le (by decide) (by omega)
        refine ⟨c, digits ++ [(n % 10).digitChar], ?_, digit, nonzero⟩
        rw [unfolded, split, List.cons_append]

/-- A text that does not continue the digits of a whole number. -/
def EndsNumeral (text : List Char) : Prop :=
  ∀ c rest, text = c :: rest → c.isDigit = false ∧ c ≠ '.' ∧ c ≠ 'e' ∧ c ≠ 'E'

theorem EndsNumeral.nil : EndsNumeral [] := by
  intro c rest h
  cases h

theorem EndsNumeral.cons {c : Char} {rest : List Char}
    (ends : c.isDigit = false ∧ c ≠ '.' ∧ c ≠ 'e' ∧ c ≠ 'E') : EndsNumeral (c :: rest) := by
  intro c rest h
  cases h
  exact ends

theorem leadingDigits_append {digits rest : List Char} (all : ∀ c ∈ digits, c.isDigit = true)
    (ends : EndsNumeral rest) : leadingDigits (digits ++ rest) = digits := by
  have stop : rest.takeWhile Char.isDigit = [] := by
    cases rest with
    | nil => rfl
    | cons c rest => exact List.takeWhile_cons_of_neg (by simp [(ends c rest rfl).1])
  rw [leadingDigits, List.takeWhile_append_of_pos all, stop, List.append_nil]

theorem afterDigits_append {digits rest : List Char} (all : ∀ c ∈ digits, c.isDigit = true)
    (ends : EndsNumeral rest) : afterDigits (digits ++ rest) = rest := by
  have stop : rest.dropWhile Char.isDigit = rest := by
    cases rest with
    | nil => rfl
    | cons c rest => exact List.dropWhile_cons_of_neg (by simp [(ends c rest rfl).1])
  rw [afterDigits, List.dropWhile_append_of_pos all, stop]

theorem fractionPart_of_ends {origin rest : List Char} (numeral : Numeral)
    (ends : EndsNumeral rest) (h : rest.length < origin.length) :
    fractionPart numeral rest h = .ok (numeral, ⟨rest, h⟩) := by
  cases rest with
  | nil => rfl
  | cons c rest =>
      obtain ⟨-, noPoint, noLower, noUpper⟩ := ends c rest rfl
      rw [fractionPart, if_neg noPoint, exponentPart, if_neg (by simp [noLower, noUpper])]

theorem wholePart_of_lt {digits : List Char} {n : Nat} (value : digits.foldl appendDigit 0 = n)
    (fits : n < UInt64.size) (negative : Bool) :
    wholePart negative digits = ⟨negative, n, 0, true⟩ := by
  have gathered : gather 0 digits = (n, 0) := by
    rw [gather_of_lt (value ▸ fits), value]
  simp only [wholePart, gathered]
  rfl

theorem unsigned_natural {origin rest : List Char} {n : Nat} (fits : n < UInt64.size)
    (ends : EndsNumeral rest) (negative : Bool) (h : (natural n ++ rest).length ≤ origin.length) :
    (unsigned negative (natural n ++ rest) h).Gives ⟨negative, n, 0, true⟩ rest := by
  have digits : ∀ c ∈ natural n, c.isDigit = true := fun _ => isDigit_of_mem_natural
  have value := foldl_appendDigit_natural n
  rcases Nat.eq_zero_or_pos n with rfl | positive
  · refine ⟨h, ?_⟩
    have none : leadingDigits ([] ++ rest) = [] := leadingDigits_append (by simp) ends
    rw [List.nil_append] at none
    have h' : ('0' :: rest).length ≤ origin.length := h
    change unsigned negative ('0' :: rest) h' = _
    rw [unsigned, if_pos rfl, if_pos (by rw [none]; rfl),
      wholePart_of_lt (n := 0) rfl fits, fractionPart_of_ends _ ends]
  · obtain ⟨c, tail, split, digit, nonzero⟩ := natural_eq_cons positive
    revert h
    rw [split] at digits value ⊢
    intro h
    have tailDigits : ∀ d ∈ tail, d.isDigit = true :=
      fun d mem => digits d (List.mem_cons_of_mem _ mem)
    have shorter : rest.length < origin.length := by
      simp only [List.cons_append, List.length_cons, List.length_append] at h
      omega
    refine ⟨shorter, ?_⟩
    have h' : (c :: (tail ++ rest)).length ≤ origin.length := h
    change unsigned negative (c :: (tail ++ rest)) h' = _
    rw [unsigned, if_neg nonzero, if_pos digit]
    simp only [leadingDigits_append tailDigits ends, afterDigits_append tailDigits ends]
    rw [wholePart_of_lt value fits, fractionPart_of_ends _ ends]

theorem number?_whole {i : Int} (range : Number.InRange (.whole i)) :
    (Numeral.mk (decide (i < 0)) i.natAbs 0 true).number? = some (.whole i) := by
  obtain ⟨least, greatest⟩ := range
  unfold Numeral.number?
  rcases Int.lt_or_le i 0 with negative | natural
  · have bounds : 0 < i.natAbs ∧ i.natAbs ≤ UInt64.size / 2 := by omega
    have same : (-i.natAbs : Int) = i := by omega
    rw [if_neg (by simp [negative]), if_pos (by simpa using bounds), same]
  · have same : (i.natAbs : Int) = i := by omega
    rw [if_pos (by simpa using natural), same]

theorem numeral_of_ne {text : List Char} (noSign : ∀ rest, text ≠ '-' :: rest) :
    numeral text = unsigned false text (length_le_self text) :=
  numeral.eq_2 text noSign

theorem numeral_natural {n : Nat} {rest : List Char} (fits : n < UInt64.size)
    (ends : EndsNumeral rest) : (numeral (natural n ++ rest)).Gives ⟨false, n, 0, true⟩ rest := by
  have noSign : ∀ rest', natural n ++ rest ≠ '-' :: rest' := by
    intro rest' minus
    cases split : natural n with
    | nil => exact absurd split Nat.toDigits_ne_nil
    | cons c digits =>
        have digit : c.isDigit = true := isDigit_of_mem_natural (split ▸ List.mem_cons_self)
        rw [split] at minus
        cases minus
        exact absurd digit (by decide)
  rw [numeral_of_ne noSign]
  exact unsigned_natural fits ends false _

theorem numeral_integer {i : Int} {rest : List Char} (range : Number.InRange (.whole i))
    (ends : EndsNumeral rest) :
    (numeral (integer i ++ rest)).Gives ⟨decide (i < 0), i.natAbs, 0, true⟩ rest := by
  obtain ⟨least, greatest⟩ := range
  have fits : i.natAbs < UInt64.size := by
    have half : UInt64.size / 2 < UInt64.size := by decide
    omega
  by_cases negative : i < 0
  · have written : integer i = '-' :: natural i.natAbs := if_pos negative
    rw [written, decide_eq_true negative]
    exact unsigned_natural fits ends true _
  · have written : integer i = natural i.natAbs := if_neg negative
    rw [written, decide_eq_false negative]
    exact numeral_natural fits ends

/-- A whole number reads back. -/
theorem strictNumber_integer {i : Int} {rest : List Char} (range : Number.InRange (.whole i))
    (ends : EndsNumeral rest) : (strictNumber (integer i ++ rest)).Gives (.whole i) rest := by
  obtain ⟨shorter, read⟩ := numeral_integer range ends
  refine ⟨shorter, ?_⟩
  simp only [strictNumber, read, number?_whole range]

theorem gather_lt {value : Nat} (fits : value < UInt64.size) (digits : List Char) :
    (gather value digits).1 < UInt64.size := by
  induction digits generalizing value with
  | nil => exact fits
  | cons c rest ih =>
      rw [gather]
      split
      · next next => exact ih next
      · exact fits

section Significand
variable {origin text : List Char} {before n : Numeral} {rest : Rest origin}

theorem significand_of_exponentPart {h : text.length < origin.length}
    (read : exponentPart before text h = .ok (n, rest)) : n.significand = before.significand := by
  unfold exponentPart at read
  split at read
  · cases read
    rfl
  · split at read
    · dsimp only at read
      split at read
      · cases read
      · cases read
        rfl
    · cases read
      rfl

theorem significand_lt_of_fractionPart {h : text.length < origin.length}
    (read : fractionPart before text h = .ok (n, rest))
    (fits : before.significand < UInt64.size) : n.significand < UInt64.size := by
  unfold fractionPart at read
  split at read
  · cases read
    exact fits
  · split at read
    · dsimp only at read
      split at read
      · cases read
      · rw [significand_of_exponentPart read]
        exact gather_lt fits _
    · rwa [significand_of_exponentPart read]

theorem significand_lt_of_unsigned {negative : Bool} {h : text.length ≤ origin.length}
    (read : unsigned negative text h = .ok (n, rest)) : n.significand < UInt64.size := by
  have fits : ∀ digits, (wholePart negative digits).significand < UInt64.size :=
    gather_lt (by decide)
  unfold unsigned at read
  split at read
  · cases read
  · split at read
    · split at read
      · exact significand_lt_of_fractionPart read (fits _)
      · cases read
    · split at read
      · exact significand_lt_of_fractionPart read (fits _)
      · cases read

theorem significand_lt_of_numeral {rest : Rest text} (read : numeral text = .ok (n, rest)) :
    n.significand < UInt64.size := by
  unfold numeral at read
  split at read
  · exact significand_lt_of_unsigned read
  · exact significand_lt_of_unsigned read

end Significand

theorem inRange_of_number? {n : Numeral} {number : Number} (fits : n.significand < UInt64.size)
    (stands : n.number? = some number) : number.InRange := by
  unfold Numeral.number? at stands
  split at stands
  · cases stands
    exact ⟨by omega, by exact_mod_cast fits⟩
  · split at stands
    · next small =>
        simp only [Bool.and_eq_true, decide_eq_true_eq] at small
        cases stands
        have half : UInt64.size / 2 < UInt64.size := by decide
        constructor <;> omega
    · obtain ⟨x, -, rfl⟩ := Option.map_eq_some_iff.mp stands
      trivial

/-- Whatever number is read, it is in range. -/
theorem inRange_of_strictNumber {text : List Char} {number : Number} {rest : Rest text}
    (read : strictNumber text = .ok (number, rest)) : number.InRange := by
  unfold strictNumber at read
  split at read
  · cases read
  · next n _ taken =>
      split at read
      · next value stands =>
          cases read
          exact inRange_of_number? (significand_lt_of_numeral taken) stands
      · cases read

end ProfileClient.Json
