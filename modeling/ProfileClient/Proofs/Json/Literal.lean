import ProfileClient.Proofs.Json.Listed
/-!
The literals of whole numbers without a sign: a number is read as such a number just where its
decimal digits stand, without zeros before them, point, exponent or sign.
-/
namespace ProfileClient.Json

theorem digitChar_of_isDigit {c : Char} (digit : c.isDigit = true) :
    c.toNat - '0'.toNat < 10 ∧ (c.toNat - '0'.toNat).digitChar = c := by
  have bounds : '0'.toNat ≤ c.toNat ∧ c.toNat ≤ '0'.toNat + 9 := by
    simp only [Char.isDigit, Bool.and_eq_true, decide_eq_true_eq] at digit
    exact ⟨UInt32.le_iff_toNat_le.mp digit.1, UInt32.le_iff_toNat_le.mp digit.2⟩
  have small : c.toNat - '0'.toNat < 10 := by omega
  refine ⟨small, Char.toNat_inj.mp ?_⟩
  have zero : '0'.toNat = 48 := rfl
  rw [Nat.toNat_digitChar_of_lt_ten small]
  omega

/-- Digits after those of a number that is not zero continue them. -/
theorem natural_append {value : Nat} (positive : 0 < value) {digits : List Char}
    (all : ∀ d ∈ digits, d.isDigit = true) :
    natural value ++ digits = natural (digits.foldl appendDigit value) := by
  induction digits generalizing value with
  | nil => exact List.append_nil _
  | cons d digits ih =>
      obtain ⟨small, char⟩ := digitChar_of_isDigit (all d List.mem_cons_self)
      have next : natural value ++ [d] = natural (appendDigit value d) := by
        rw [natural, natural, appendDigit, Nat.mul_comm,
          ← Nat.toDigits_append_toDigits (by decide) positive small,
          Nat.toDigits_of_lt_base small, char]
      have later : 0 < appendDigit value d := by
        rw [appendDigit]
        omega
      rw [List.foldl_cons, ← ih later fun e mem => all e (List.mem_cons_of_mem _ mem), ← next,
        List.append_assoc, List.singleton_append]

/-- Digits that no zero stands before are those of the number they stand for. -/
theorem natural_foldl_appendDigit {c : Char} {digits : List Char}
    (all : ∀ d ∈ c :: digits, d.isDigit = true) (nonzero : c ≠ '0') :
    natural ((c :: digits).foldl appendDigit 0) = c :: digits := by
  obtain ⟨small, char⟩ := digitChar_of_isDigit (all c List.mem_cons_self)
  have value : appendDigit 0 c = c.toNat - '0'.toNat := by
    rw [appendDigit, Nat.zero_mul, Nat.zero_add]
  have positive : 0 < appendDigit 0 c := by
    rcases Nat.eq_zero_or_pos (appendDigit 0 c) with zero | positive
    · rw [← value, zero] at char
      exact absurd char.symm nonzero
    · exact positive
  rw [List.foldl_cons, ← natural_append positive fun d mem => all d (List.mem_cons_of_mem _ mem),
    value, natural, Nat.toDigits_of_lt_base small, char, List.singleton_append]

theorem gather_of_none_left {value : Nat} {digits : List Char}
    (none : (gather value digits).2 = 0) :
    (gather value digits).1 = digits.foldl appendDigit value := by
  induction digits generalizing value with
  | nil => rfl
  | cons c rest ih =>
      rw [gather] at none ⊢
      split at none
      · next fits =>
          rw [if_pos fits]
          exact ih none
      · cases none

section Plain
variable {origin text : List Char} {before n : Numeral} {rest : Rest origin}

theorem negative_of_exponentPart {h : text.length < origin.length}
    (read : exponentPart before text h = .ok (n, rest)) : n.negative = before.negative := by
  unfold exponentPart at read
  split at read
  · cases read
    rfl
  · split at read
    · dsimp only at read
      split at read
      · cases read
      · cases read
        rfl
    · cases read
      rfl

theorem negative_of_fractionPart {h : text.length < origin.length}
    (read : fractionPart before text h = .ok (n, rest)) : n.negative = before.negative := by
  unfold fractionPart at read
  split at read
  · cases read
    rfl
  · split at read
    · dsimp only at read
      split at read
      · cases read
      · rw [negative_of_exponentPart read]
        rfl
    · exact negative_of_exponentPart read

theorem negative_of_unsigned {negative : Bool} {h : text.length ≤ origin.length}
    (read : unsigned negative text h = .ok (n, rest)) : n.negative = negative := by
  unfold unsigned at read
  split at read
  · cases read
  · split at read
    · split at read
      · exact negative_of_fractionPart read
      · cases read
    · split at read
      · exact negative_of_fractionPart read
      · cases read

/-- A plain numeral has no exponent. -/
theorem eq_of_exponentPart_plain {h : text.length < origin.length}
    (read : exponentPart before text h = .ok (n, rest)) (plain : n.plain = true) :
    n = before ∧ rest.1 = text ∧ ∀ c tail, text = c :: tail → c ≠ 'e' ∧ c ≠ 'E' := by
  unfold exponentPart at read
  split at read
  · cases read
    exact ⟨rfl, rfl, fun _ _ split => nomatch split⟩
  · split at read
    · dsimp only at read
      split at read
      · cases read
      · cases read
        cases plain
    · next c tail noMark =>
        cases read
        refine ⟨rfl, rfl, ?_⟩
        rintro _ _ ⟨⟩
        exact not_or.mp noMark

theorem eq_of_fractionPart_plain {h : text.length < origin.length}
    (read : fractionPart before text h = .ok (n, rest)) (plain : n.plain = true) :
    n = before ∧ rest.1 = text ∧ ∀ c tail, text = c :: tail → c ≠ '.' ∧ c ≠ 'e' ∧ c ≠ 'E' := by
  unfold fractionPart at read
  split at read
  · cases read
    exact ⟨rfl, rfl, fun _ _ split => nomatch split⟩
  · split at read
    · dsimp only at read
      split at read
      · cases read
      · obtain ⟨rfl, -, -⟩ := eq_of_exponentPart_plain read plain
        cases plain
    · next c tail noPoint =>
        obtain ⟨same, left, noMark⟩ := eq_of_exponentPart_plain read plain
        refine ⟨same, left, ?_⟩
        intro c' tail' split
        cases split
        exact ⟨noPoint, noMark _ _ rfl⟩

end Plain

theorem endsNumeral_of_plain {text : List Char}
    (noDigit : leadingDigits text = [])
    (noMark : ∀ c tail, text = c :: tail → c ≠ '.' ∧ c ≠ 'e' ∧ c ≠ 'E') : EndsNumeral text := by
  rintro c tail rfl
  refine ⟨?_, noMark c tail rfl⟩
  cases digit : c.isDigit with
  | false => rfl
  | true =>
      rw [leadingDigits, List.takeWhile_cons_of_pos digit] at noDigit
      cases noDigit

theorem leadingDigits_afterDigits (text : List Char) : leadingDigits (afterDigits text) = [] := by
  induction text with
  | nil => rfl
  | cons c text ih =>
      cases digit : c.isDigit with
      | false =>
          rw [afterDigits, List.dropWhile_cons_of_neg (by simp [digit]), leadingDigits,
            List.takeWhile_cons_of_neg (by simp [digit])]
      | true =>
          rw [afterDigits, List.dropWhile_cons_of_pos digit]
          exact ih

/-- A plain numeral is the digits of its number. -/
theorem eq_natural_of_unsigned_plain {origin text : List Char} {negative : Bool} {n : Numeral}
    {rest : Rest origin} {h : text.length ≤ origin.length}
    (read : unsigned negative text h = .ok (n, rest)) (plain : n.plain = true) :
    text = natural n.significand ++ rest.1 ∧ EndsNumeral rest.1 := by
  unfold unsigned at read
  split at read
  · cases read
  · next c tail _ =>
      split at read
      · next zero =>
          split at read
          · next alone =>
              obtain ⟨rfl, left, noMark⟩ := eq_of_fractionPart_plain read plain
              have ends := endsNumeral_of_plain (List.isEmpty_iff.mp alone) noMark
              subst zero
              have value : (wholePart negative ['0']).significand = 0 := rfl
              rw [left, value]
              exact ⟨rfl, ends⟩
          · cases read
      · next nonzero =>
          split at read
          · next digit =>
              obtain ⟨rfl, left, noMark⟩ := eq_of_fractionPart_plain read plain
              have ends := endsNumeral_of_plain (leadingDigits_afterDigits tail) noMark
              have all : ∀ d ∈ c :: leadingDigits tail, d.isDigit = true := by
                intro d mem
                rcases List.mem_cons.mp mem with rfl | mem
                · exact digit
                · exact List.all_eq_true.mp List.all_takeWhile d mem
              have value : (wholePart negative (c :: leadingDigits tail)).significand =
                  (c :: leadingDigits tail).foldl appendDigit 0 :=
                gather_of_none_left (of_decide_eq_true plain)
              have whole : leadingDigits tail ++ afterDigits tail = tail :=
                List.takeWhile_append_dropWhile
              rw [left, value, natural_foldl_appendDigit all nonzero, List.cons_append, whole]
              exact ⟨rfl, ends⟩
          · cases read

theorem of_number?_natural {m : Numeral} {n : Nat} (stands : m.number? = some (.whole n)) :
    m.plain = true ∧ m.negative = false ∧ n = m.significand := by
  unfold Numeral.number? at stands
  split at stands
  · next unsigned =>
      cases stands
      simpa using unsigned
  · split at stands
    · next signed =>
        simp only [Bool.and_eq_true, decide_eq_true_eq] at signed
        have same : (-m.significand : Int) = n := Number.whole.inj (Option.some.inj stands)
        omega
    · obtain ⟨x, -, real⟩ := Option.map_eq_some_iff.mp stands
      cases real

theorem eq_natural_of_numeral_plain {text : List Char} {n : Numeral} {rest : Rest text}
    (read : numeral text = .ok (n, rest)) (plain : n.plain = true) (positive : n.negative = false) :
    text = natural n.significand ++ rest.1 ∧ EndsNumeral rest.1 := by
  unfold numeral at read
  split at read
  · cases positive.symm.trans (negative_of_unsigned read)
  · exact eq_natural_of_unsigned_plain read plain

/-- A number is read as `n`, a whole number without a sign, just where the digits of `n` stand. -/
theorem strictNumber_natural_iff {text rest : List Char} {n : Nat} :
    (strictNumber text).Gives (.whole n) rest ↔
      n < UInt64.size ∧ text = natural n ++ rest ∧ EndsNumeral rest := by
  constructor
  · rintro ⟨shorter, read⟩
    have range := inRange_of_strictNumber read
    unfold strictNumber at read
    split at read
    · cases read
    · next m left got =>
        split at read
        · next value stands =>
            cases read
            obtain ⟨plain, positive, rfl⟩ := of_number?_natural stands
            obtain ⟨same, ends⟩ := eq_natural_of_numeral_plain got plain positive
            exact ⟨by exact_mod_cast range.2, same, ends⟩
        · cases read
  · rintro ⟨fits, rfl, ends⟩
    have range : Number.InRange (.whole n) := ⟨by omega, by exact_mod_cast fits⟩
    have written : integer n = natural n := if_neg (by omega)
    rw [← written]
    exact strictNumber_integer range ends

theorem value_natural_iff {depth : Nat} {text rest : List Char} {n : Nat} :
    (value .strict depth text).Gives (.number (.whole n)) rest ↔
      n < UInt64.size ∧ skipSpace text = natural n ++ rest ∧ EndsNumeral rest := by
  constructor
  · intro gives
    obtain ⟨c, tail, first, opened⟩ := exists_opened gives
    cases opened with
    | number _ numeral =>
        obtain ⟨fits, literal, ends⟩ := strictNumber_natural_iff.mp numeral
        exact ⟨fits, first.trans literal, ends⟩
  · rintro ⟨fits, literal, ends⟩
    obtain ⟨c, digits, written, digit⟩ := natural_head n
    rw [written, List.cons_append] at literal
    rw [value_eq]
    refine afterSpace_gives literal ?_
    rw [valueFrom_number _ _ _ (.inr digit)]
    exact (strictNumber_natural_iff.mpr ⟨fits, by rw [written]; rfl, ends⟩).map Json.number

end ProfileClient.Json
