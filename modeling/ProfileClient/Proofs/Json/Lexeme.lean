import ProfileClient.Json.Reader
import ProfileClient.Json.Printer
/-!
Lexemes read back: blanks are passed over, and a keyword or a quoted string gives the value that was
written and leaves what follows it.
-/
namespace ProfileClient.Json

/-- The reading succeeded with this value and left this rest. -/
def Reading.Gives {α : Type} {text : List Char} (reading : Reading α text) (value : α)
    (rest : List Char) : Prop :=
  ∃ shorter, reading = .ok (value, ⟨rest, shorter⟩)

theorem Reading.Gives.within {α : Type} {inner outer rest : List Char} {reading : Reading α inner}
    {value : α} (gives : reading.Gives value rest) (h : inner.length ≤ outer.length) :
    (reading.within h).Gives value rest := by
  obtain ⟨shorter, rfl⟩ := gives
  exact ⟨Nat.lt_of_lt_of_le shorter h, rfl⟩

theorem Reading.Gives.map {α β : Type} {text rest : List Char} {reading : Reading α text}
    {value : α} (gives : reading.Gives value rest) (f : α → β) :
    (reading.map f).Gives (f value) rest := by
  obtain ⟨shorter, rfl⟩ := gives
  exact ⟨shorter, rfl⟩

section Inversion
variable {α β : Type} {text rest rest' : List Char} {v v' : α}

theorem Reading.Gives.unique {reading : Reading α text} (gives : reading.Gives v rest)
    (gives' : reading.Gives v' rest') : v = v' ∧ rest = rest' := by
  obtain ⟨_, read⟩ := gives
  obtain ⟨_, read'⟩ := gives'
  cases read.symm.trans read'
  exact ⟨rfl, rfl⟩

theorem not_gives_error {fault : Fault} :
    ¬ Reading.Gives (.error fault : Reading α text) v rest := by
  rintro ⟨_, read⟩
  cases read

theorem gives_ok_iff {left : Rest text} :
    Reading.Gives (.ok (v', left) : Reading α text) v rest ↔ v' = v ∧ left.1 = rest := by
  constructor
  · rintro ⟨_, read⟩
    obtain ⟨same, left⟩ := Prod.mk.inj (Except.ok.inj read)
    exact ⟨same, congrArg Subtype.val left⟩
  · rintro ⟨rfl, rfl⟩
    exact ⟨left.2, rfl⟩

theorem Reading.Gives.of_within {inner outer : List Char} {h : inner.length ≤ outer.length}
    {reading : Reading α inner} (gives : (reading.within h).Gives v rest) :
    reading.Gives v rest := by
  cases reading with
  | error fault => exact absurd gives not_gives_error
  | ok got =>
      obtain ⟨value, left⟩ := got
      obtain ⟨rfl, rfl⟩ := gives_ok_iff.mp gives
      exact gives_ok_iff.mpr ⟨rfl, rfl⟩

theorem Reading.Gives.exists_of_map {reading : Reading α text} {f : α → β} {w : β}
    (gives : (reading.map f).Gives w rest) : ∃ v, f v = w ∧ reading.Gives v rest := by
  cases reading with
  | error fault => exact absurd gives not_gives_error
  | ok got =>
      obtain ⟨value, left⟩ := got
      obtain ⟨rfl, rfl⟩ := gives_ok_iff.mp gives
      exact ⟨value, rfl, gives_ok_iff.mpr ⟨rfl, rfl⟩⟩

theorem Reading.Gives.exists_of_afterSpace
    {go : (c : Char) → (rest : List Char) → Reading α (c :: rest)}
    (gives : (afterSpace go text).Gives v rest) :
    ∃ c tail, skipSpace text = c :: tail ∧ (go c tail).Gives v rest := by
  unfold afterSpace at gives
  split at gives
  · exact absurd gives not_gives_error
  · next c tail first => exact ⟨c, tail, first, gives.of_within⟩

end Inversion

theorem skipSpace_append {blanks : List Char} (blank : ∀ c ∈ blanks, isSpace c = true)
    (text : List Char) : skipSpace (blanks ++ text) = skipSpace text :=
  List.dropWhile_append_of_pos blank

theorem skipSpace_cons {c : Char} (solid : isSpace c = false) (text : List Char) :
    skipSpace (c :: text) = c :: text :=
  List.dropWhile_cons_of_neg (by simp [solid])

theorem expect_append (word rest : List Char) :
    expect word (word ++ rest) = .ok ⟨rest, (List.suffix_append word rest).length_le⟩ := by
  induction word with
  | nil => rfl
  | cons w word ih =>
      change expect (w :: word) (w :: (word ++ rest)) = _
      rw [expect, if_pos rfl, ih]

theorem keyword_append {α : Type} (value : α) (word : String) (c : Char) (rest : List Char) :
    (keyword value word c (word.toList ++ rest)).Gives value rest := by
  refine ⟨?_, ?_⟩
  · rw [List.length_cons, List.length_append]
    omega
  · rw [keyword, expect_append]

/-- A keyword is found whatever it stands for. -/
theorem keyword_gives_iff {α β : Type} {v v' : α} {word : String} {c : Char}
    {text rest : List Char} (w : β) :
    (keyword v word c text).Gives v' rest ↔ v' = v ∧ (keyword w word c text).Gives w rest := by
  unfold keyword
  cases expect word.toList text with
  | error fault => simp [Reading.Gives]
  | ok got => simp [Reading.Gives, eq_comm]

theorem hexDigit?_hexDigit {n : Nat} (h : n < 16) : hexDigit? (hexDigit n) = some n := by
  revert n
  decide

/-- A character is escaped by a letter, by its number, or not at all. -/
theorem escape_cases (c : Char) :
    (∃ letter, escape c = ['\\', letter] ∧ letter ≠ 'u' ∧ shortEscape? letter = some c) ∨
      (c.toNat < 0x20 ∧
        escape c = ['\\', 'u', '0', '0', hexDigit (c.toNat / 16), hexDigit (c.toNat % 16)]) ∨
      (escape c = [c] ∧ c ≠ '"' ∧ c ≠ '\\' ∧ ¬ c.toNat < 0x20) := by
  unfold escape
  split
  · exact .inl ⟨'"', rfl, by decide, rfl⟩
  · exact .inl ⟨'\\', rfl, by decide, rfl⟩
  · exact .inl ⟨'b', rfl, by decide, rfl⟩
  · exact .inl ⟨'f', rfl, by decide, rfl⟩
  · exact .inl ⟨'n', rfl, by decide, rfl⟩
  · exact .inl ⟨'r', rfl, by decide, rfl⟩
  · exact .inl ⟨'t', rfl, by decide, rfl⟩
  · next quote backslash _ _ _ _ _ =>
      split
      · next control => exact .inr (.inl ⟨control, rfl⟩)
      · next printable => exact .inr (.inr ⟨rfl, quote, backslash, printable⟩)

theorem escaped_letter (unicode : Reader Char) {letter c : Char} (noNumber : letter ≠ 'u')
    (stands : shortEscape? letter = some c) (rest : List Char) :
    (escaped unicode (letter :: rest)).Gives c rest := by
  refine ⟨Nat.lt_succ_self _, ?_⟩
  rw [escaped, if_neg noNumber, stands]

theorem hexQuad_control {n : Nat} (control : n < 0x20) (rest : List Char) :
    (hexQuad ('0' :: '0' :: hexDigit (n / 16) :: hexDigit (n % 16) :: rest)).Gives n rest := by
  refine ⟨by simp; omega, ?_⟩
  have high : hexDigit? (hexDigit (n / 16)) = some (n / 16) := hexDigit?_hexDigit (by omega)
  have low : hexDigit? (hexDigit (n % 16)) = some (n % 16) := hexDigit?_hexDigit (by omega)
  have zero : hexDigit? '0' = some 0 := rfl
  have value : ((0 * 16 + 0) * 16 + n / 16) * 16 + n % 16 = n := by omega
  simp only [hexQuad, zero, high, low, value]

theorem escaped_control {c : Char} (control : c.toNat < 0x20) (rest : List Char) :
    (escaped scalar
      ('u' :: '0' :: '0' :: hexDigit (c.toNat / 16) :: hexDigit (c.toNat % 16) :: rest)).Gives
        c rest := by
  have unit : (scalar ('0' :: '0' :: hexDigit (c.toNat / 16) :: hexDigit (c.toNat % 16) ::
      rest)).Gives c rest := by
    obtain ⟨shorter, digits⟩ := hexQuad_control control rest
    refine ⟨shorter, ?_⟩
    have noLow : ¬ (0xDC00 ≤ c.toNat ∧ c.toNat ≤ 0xDFFF) := by omega
    have noHigh : ¬ (0xD800 ≤ c.toNat ∧ c.toNat ≤ 0xDBFF) := by omega
    simp only [scalar, digits, if_neg noLow, if_neg noHigh, Char.ofNat_toNat]
  rw [escaped, if_pos rfl]
  exact unit.within _

section Quoted
variable {origin rest : List Char} {done : List Char} {text : List Char} {string : String}

theorem quotedOnto_plain {unicode : Reader Char} {c : Char} (noQuote : c ≠ '"')
    (noBackslash : c ≠ '\\') (printable : ¬ c.toNat < 0x20)
    (tail : ∀ h : text.length ≤ origin.length,
      (quotedOnto unicode (c :: done) text h).Gives string rest)
    (h : (c :: text).length ≤ origin.length) :
    (quotedOnto unicode done (c :: text) h).Gives string rest := by
  rw [quotedOnto, if_neg noQuote, if_neg noBackslash, if_neg printable]
  exact tail _

theorem quotedOnto_escaped {unicode : Reader Char} {c : Char} {after : List Char}
    (gives : (escaped unicode text).Gives c after)
    (tail : ∀ h : after.length ≤ origin.length,
      (quotedOnto unicode (c :: done) after h).Gives string rest)
    (h : ('\\' :: text).length ≤ origin.length) :
    (quotedOnto unicode done ('\\' :: text) h).Gives string rest := by
  obtain ⟨shorter, read⟩ := gives
  rw [quotedOnto, if_neg (by decide), if_pos rfl, read]
  exact tail _

theorem quotedOnto_escape (chars done rest : List Char)
    (h : (chars.flatMap escape ++ '"' :: rest).length ≤ origin.length) :
    (quotedOnto scalar done (chars.flatMap escape ++ '"' :: rest) h).Gives
      (String.ofList (done.reverse ++ chars)) rest := by
  induction chars generalizing done with
  | nil =>
      refine ⟨h, ?_⟩
      rw [List.append_nil]
      change quotedOnto scalar done ('"' :: rest) h = _
      rw [quotedOnto, if_pos rfl]
  | cons c chars ih =>
      have tail : ∀ h : (chars.flatMap escape ++ '"' :: rest).length ≤ origin.length,
          (quotedOnto scalar (c :: done) (chars.flatMap escape ++ '"' :: rest) h).Gives
            (String.ofList (done.reverse ++ c :: chars)) rest := by
        intro h
        have gives := ih (c :: done) h
        rwa [List.reverse_cons, List.append_assoc, List.singleton_append] at gives
      revert h
      rw [List.flatMap_cons, List.append_assoc]
      rcases escape_cases c with ⟨letter, written, noNumber, stands⟩ | ⟨control, written⟩ |
        ⟨written, noQuote, noBackslash, printable⟩
      · rw [written]
        exact quotedOnto_escaped (escaped_letter scalar noNumber stands _) tail
      · rw [written]
        exact quotedOnto_escaped (escaped_control control _) tail
      · rw [written]
        exact quotedOnto_plain noQuote noBackslash printable tail

theorem quote_append (string : String) (rest : List Char) :
    quote string ++ rest = '"' :: (string.toList.flatMap escape ++ '"' :: rest) := by
  simp [quote]

/-- A quoted string reads back, whatever it holds. -/
theorem quoted_escape (string : String) (rest : List Char) :
    (quoted scalar (string.toList.flatMap escape ++ '"' :: rest)).Gives string rest := by
  have gives := quotedOnto_escape string.toList [] rest (length_le_self _)
  rwa [List.reverse_nil, List.nil_append, String.ofList_toList] at gives

end Quoted
end ProfileClient.Json
