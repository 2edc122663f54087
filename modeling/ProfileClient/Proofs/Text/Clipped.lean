import ProfileClient.Proofs.Text.Utf8
import ProfileClient.Text.Clipped
/-!
Where the octets of a text can be divided: behind each run of whole characters from its start, and
nowhere else. So the search for a boundary passes three offsets at most, and what is kept before it
is the longest run that the limit has room for.
-/
namespace ProfileClient.Text

variable {text front : List Char} {limit offset : Nat}

@[simp]
theorem octets_nil : octets [] = 0 := rfl

@[simp]
theorem octets_cons (c : Char) (rest : List Char) :
    octets (c :: rest) = c.utf8Size + octets rest := rfl

@[simp]
theorem octets_append (front rest : List Char) :
    octets (front ++ rest) = octets front + octets rest := by
  induction front with
  | nil => simp
  | cons c front ih => rw [List.cons_append, octets_cons, octets_cons, ih, Nat.add_assoc]

@[simp]
theorem encoded_cons (c : Char) (rest : List Char) :
    encoded (c :: rest) = String.utf8EncodeChar c ++ encoded rest := List.flatMap_cons

@[simp]
theorem encoded_append (front rest : List Char) :
    encoded (front ++ rest) = encoded front ++ encoded rest := List.flatMap_append

@[simp]
theorem length_encoded (text : List Char) : (encoded text).length = octets text := by
  induction text with
  | nil => rfl
  | cons c rest ih =>
      rw [encoded_cons, List.length_append, String.length_utf8EncodeChar, ih, octets_cons]

theorem octets_of_ascii (ascii : ∀ c ∈ text, c.utf8Size = 1) : octets text = text.length := by
  induction text with
  | nil => rfl
  | cons c rest ih =>
      obtain ⟨one, others⟩ := List.forall_mem_cons.mp ascii
      rw [octets_cons, one, ih others, List.length_cons, Nat.add_comm]

/-- A run of whole characters is within the budget just if it is part of the longest that is. -/
theorem prefix_within_iff {budget : Nat} :
    front <+: within budget text ↔ front <+: text ∧ octets front ≤ budget := by
  induction text generalizing front budget with
  | nil =>
      constructor
      · intro start
        cases List.prefix_nil.mp start
        exact ⟨List.nil_prefix, Nat.zero_le _⟩
      · exact And.left
  | cons c rest ih =>
      cases front with
      | nil => simp
      | cons d front =>
          unfold within
          split
          · next fits =>
              rw [List.cons_prefix_cons, List.cons_prefix_cons, ih, octets_cons, and_assoc]
              refine and_congr_right ?_
              rintro rfl
              exact and_congr_right fun _ => by omega
          · next tooLong =>
              rw [List.cons_prefix_cons, octets_cons]
              constructor
              · intro start
                cases List.prefix_nil.mp start
              · rintro ⟨⟨rfl, -⟩, fits⟩
                omega

theorem octets_within_le (budget : Nat) (text : List Char) :
    octets (within budget text) ≤ budget := (prefix_within_iff.mp List.prefix_rfl).2

theorem within_isPrefix (budget : Nat) (text : List Char) : within budget text <+: text :=
  (prefix_within_iff.mp List.prefix_rfl).1

theorem octets_le_of_prefix (start : front <+: text) : octets front ≤ octets text := by
  obtain ⟨rest, rfl⟩ := start
  rw [octets_append]
  exact Nat.le_add_right ..

theorem within_octets (start : front <+: text) : within (octets front) text = front := by
  obtain ⟨rest, rfl⟩ := start
  induction front with
  | nil => cases rest <;> simp [within, Char.utf8Size_pos, Nat.pos_iff_ne_zero.mp]
  | cons c front ih =>
      rw [List.cons_append, octets_cons, within, if_pos (Nat.le_add_right ..),
        Nat.add_sub_cancel_left, ih]

/-- What follows the longest run within a budget has no room in it. -/
theorem lt_of_within {budget : Nat} {c : Char} {rest : List Char}
    (split : text = within budget text ++ c :: rest) :
    budget < octets (within budget text) + c.utf8Size := by
  have start : within budget text ++ [c] <+: text := by
    refine ⟨rest, ?_⟩
    rw [List.append_assoc, List.singleton_append, ← split]
  refine Nat.lt_of_not_le fun room => ?_
  have longer : within budget text ++ [c] <+: within budget text := by
    refine prefix_within_iff.mpr ⟨start, ?_⟩
    rwa [octets_append, octets_cons, octets_nil, Nat.add_zero]
  have length := longer.length_le
  rw [List.length_append, List.length_singleton] at length
  omega

/-- A text beyond the limit leaves less room than one character of four octets takes. -/
theorem lt_octets_within (long : limit < octets text) :
    limit < octets (within limit text) + 4 := by
  obtain ⟨rest, split⟩ := within_isPrefix limit text
  cases rest with
  | nil =>
      have fits := octets_within_le limit text
      rw [List.append_nil] at split
      rw [split] at fits
      omega
  | cons c rest =>
      have room := lt_of_within split.symm
      have size := c.utf8Size_le_four
      omega

theorem startsCharacter_iff {octet : UInt8} :
    startsCharacter octet = true ↔ octet.toNat < 0x80 ∨ 0xC0 ≤ octet.toNat := by
  simp [startsCharacter, UInt8.lt_iff_toNat_lt, UInt8.le_iff_toNat_le]

theorem not_startsCharacter {octet : UInt8} (follows : Utf8.Follows octet) :
    startsCharacter octet = false := by
  have bounds := follows.bounds
  rw [← Bool.not_eq_true, startsCharacter_iff]
  omega

/-- Of the octets of a character just the first one starts it. -/
theorem exists_encodeChar (c : Char) :
    ∃ lead tail, String.utf8EncodeChar c = lead :: tail ∧ startsCharacter lead = true ∧
      ∀ octet ∈ tail, startsCharacter octet = false := by
  have form := Utf8.form_encode c
  generalize String.utf8EncodeChar c = octets at form
  cases form with
  | one leads => exact ⟨_, [], rfl, startsCharacter_iff.mpr (.inl leads), by simp⟩
  | two leads follows =>
      refine ⟨_, _, rfl, startsCharacter_iff.mpr (.inr (by omega)), ?_⟩
      simpa using not_startsCharacter follows
  | three leads follows =>
      refine ⟨_, _, rfl, startsCharacter_iff.mpr (.inr (by omega)), ?_⟩
      simpa using And.imp not_startsCharacter not_startsCharacter follows
  | four leads follows =>
      refine ⟨_, _, rfl, startsCharacter_iff.mpr (.inr (by omega)), ?_⟩
      simpa using And.imp not_startsCharacter (And.imp not_startsCharacter not_startsCharacter)
        follows

theorem isBoundary_succ_iff {octets : List UInt8} :
    isBoundary octets (offset + 1) = true ↔
      (∃ octet, octets[offset + 1]? = some octet ∧ startsCharacter octet = true) ∨
        offset + 1 = octets.length := by
  unfold isBoundary
  cases found : octets[offset + 1]? with
  | some octet =>
      have inside : offset + 1 < octets.length := (List.getElem?_eq_some_iff.mp found).1
      simp [Nat.ne_of_lt inside]
  | none => simp

theorem le_length_of_isBoundary {octets : List UInt8} (divides : isBoundary octets offset = true) :
    offset ≤ octets.length := by
  cases offset with
  | zero => exact Nat.zero_le _
  | succ offset =>
      rcases isBoundary_succ_iff.mp divides with ⟨octet, found, -⟩ | atEnd
      · exact Nat.le_of_lt (List.getElem?_eq_some_iff.mp found).1
      · exact Nat.le_of_eq atEnd

theorem isBoundary_octets (start : front <+: text) :
    isBoundary (encoded text) (octets front) = true := by
  obtain ⟨rest, rfl⟩ := start
  cases size : octets front with
  | zero => rfl
  | succ offset =>
      rw [isBoundary_succ_iff, ← size, ← length_encoded front, encoded_append]
      cases rest with
      | nil => exact .inr (by simp [encoded])
      | cons c rest =>
          obtain ⟨lead, tail, written, starts, -⟩ := exists_encodeChar c
          refine .inl ⟨lead, ?_, starts⟩
          rw [encoded_cons, written, List.getElem?_append_right (Nat.le_refl _), Nat.sub_self]
          rfl

/-- Behind the first octet of a character and before its end lies no boundary. -/
theorem le_of_isBoundary {c : Char} {rest : List Char}
    (divides : isBoundary (encoded (front ++ c :: rest)) offset = true)
    (beyond : octets front < offset) : octets front + c.utf8Size ≤ offset := by
  obtain ⟨lead, tail, written, -, others⟩ := exists_encodeChar c
  have size : c.utf8Size = tail.length + 1 := by
    rw [← String.length_utf8EncodeChar, written, List.length_cons]
  obtain ⟨inner, rfl⟩ : ∃ inner, offset = octets front + inner + 1 :=
    ⟨offset - octets front - 1, by omega⟩
  refine Nat.le_of_not_lt fun inside => ?_
  have found : (encoded (front ++ c :: rest))[octets front + inner + 1]? = tail[inner]? := by
    rw [encoded_append, encoded_cons, written, ← length_encoded front, Nat.add_assoc,
      List.getElem?_append_right (Nat.le_add_right ..), Nat.add_sub_cancel_left, List.cons_append,
      List.getElem?_cons_succ, List.getElem?_append_left (by omega)]
  rcases isBoundary_succ_iff.mp divides with ⟨octet, stands, starts⟩ | atEnd
  · rw [found] at stands
    rw [others octet (List.mem_of_getElem? stands)] at starts
    cases starts
  · rw [length_encoded, octets_append, octets_cons] at atEnd
    omega

/-- The octets of a text can be divided just behind the runs of whole characters from its start. -/
theorem isBoundary_iff :
    isBoundary (encoded text) offset = true ↔
      ∃ front, front <+: text ∧ octets front = offset := by
  constructor
  · intro divides
    refine ⟨within offset text, within_isPrefix offset text, ?_⟩
    have fits := octets_within_le offset text
    refine Nat.le_antisymm fits (Nat.le_of_not_lt fun beyond => ?_)
    obtain ⟨rest, split⟩ := within_isPrefix offset text
    cases rest with
    | nil =>
        have bound := le_length_of_isBoundary divides
        rw [length_encoded, ← split, List.append_nil] at bound
        omega
    | cons c rest =>
        have room := lt_of_within split.symm
        rw [← split] at divides
        have whole := le_of_isBoundary divides beyond
        omega
  · rintro ⟨front, start, rfl⟩
    exact isBoundary_octets start

namespace Boundary

/-- The text up to a boundary takes just the octets up to it. -/
theorem encoded_before (boundary : Boundary text) :
    encoded boundary.before = (encoded text).take boundary.offset := by
  obtain ⟨front, start, offset⟩ := isBoundary_iff.mp boundary.divides
  rw [before, ← offset, within_octets start]
  obtain ⟨rest, rfl⟩ := start
  rw [encoded_append, ← length_encoded front, List.take_left]

theorem offset_last_le (text : List Char) (limit : Nat) : (last text limit).offset ≤ limit := by
  fun_induction last text limit with
  | case1 => exact Nat.le_refl _
  | case2 limit _ ih => exact Nat.le_trans ih (Nat.sub_le ..)

/-- The search passes no boundary. -/
theorem not_isBoundary_of_lt (passed : (last text limit).offset < offset) (le : offset ≤ limit) :
    isBoundary (encoded text) offset = false := by
  fun_induction last text limit with
  | case1 limit divides => exact absurd passed (Nat.not_lt.mpr le)
  | case2 limit cuts ih =>
      rcases Nat.lt_or_eq_of_le le with lower | rfl
      · exact ih passed (Nat.le_sub_one_of_lt lower)
      · exact Bool.eq_false_iff.mpr cuts

theorem offset_last (text : List Char) (limit : Nat) :
    (last text limit).offset = octets (within limit text) := by
  have start := within_isPrefix limit text
  apply Nat.le_antisymm
  · obtain ⟨front, begins, offset⟩ := isBoundary_iff.mp (last text limit).divides
    rw [← offset]
    refine octets_le_of_prefix (prefix_within_iff.mpr ⟨begins, ?_⟩)
    exact offset ▸ offset_last_le text limit
  · refine Nat.le_of_not_lt fun passed => ?_
    have cuts := not_isBoundary_of_lt passed (octets_within_le limit text)
    cases cuts.symm.trans (isBoundary_octets start)

theorem before_last (text : List Char) (limit : Nat) :
    (last text limit).before = within limit text := by
  rw [before, offset_last, within_octets (within_isPrefix limit text)]

end Boundary

/-- How a text beyond a limit is cut. The search passes three offsets at most and no boundary among
them; what stands before the one that it finds is the longest run of whole characters from the start
that the limit has room for. -/
structure CutTo (limit : Nat) (text kept : List Char) : Prop where
  start : kept <+: text
  fits : octets kept ≤ limit
  longest : ∀ front, front <+: text → octets front ≤ limit → front <+: kept
  near : limit < octets kept + 4
  found : (Boundary.last text limit).offset = octets kept
  passed : ∀ offset, octets kept < offset → offset ≤ limit →
    isBoundary (encoded text) offset = false
  encoded_eq : encoded kept = (encoded text).take (octets kept)

theorem cutTo_within (long : limit < octets text) : CutTo limit text (within limit text) where
  start := within_isPrefix limit text
  fits := octets_within_le limit text
  longest _ start fits := prefix_within_iff.mpr ⟨start, fits⟩
  near := lt_octets_within long
  found := Boundary.offset_last text limit
  passed _ beyond le := by
    rw [← Boundary.offset_last] at beyond
    exact Boundary.not_isBoundary_of_lt beyond le
  encoded_eq := by
    rw [← Boundary.offset_last, ← Boundary.before_last, Boundary.encoded_before]

/-- The note behind a text that was cut. -/
def cutNote (total : Nat) : List Char := s!"... (truncated, {total} total bytes)".toList

theorem octets_cutNote (total : Nat) :
    octets (cutNote total) = 29 + (Nat.toDigits 10 total).length := by
  have written : cutNote total =
      "... (truncated, ".toList ++ (Nat.toDigits 10 total ++ " total bytes)".toList) := by
    simp [cutNote, toString, Nat.repr]
  have digits : octets (Nat.toDigits 10 total) = (Nat.toDigits 10 total).length := by
    refine octets_of_ascii fun c mem => ?_
    have digit := Nat.isDigit_of_mem_toDigits (by decide) (by decide) mem
    simp only [Char.isDigit, Bool.and_eq_true, decide_eq_true_eq] at digit
    exact Char.utf8Size_eq_one_iff.mpr (UInt32.le_trans digit.2 (by decide))
  have around : octets "... (truncated, ".toList = 16 ∧ octets " total bytes)".toList = 13 := by
    decide
  rw [written, octets_append, octets_append, digits, around.1, around.2]
  omega

theorem clipped_of_le (short : octets text ≤ limit) : clipped limit text = text := if_pos short

theorem clipped_of_lt (long : limit < octets text) :
    ∃ kept, CutTo limit text kept ∧ clipped limit text = kept ++ cutNote (octets text) := by
  refine ⟨within limit text, cutTo_within long, ?_⟩
  rw [clipped, if_neg (Nat.not_le.mpr long), Boundary.before_last, cutNote]

/-- Of a cut text nothing grows with the text but the number in the note. -/
theorem octets_clipped_le (limit : Nat) (text : List Char) :
    octets (clipped limit text) ≤ limit + 29 + (Nat.toDigits 10 (octets text)).length := by
  rcases Nat.lt_or_ge limit (octets text) with long | short
  · obtain ⟨kept, cut, shown⟩ := clipped_of_lt long
    have fits := cut.fits
    rw [shown, octets_append, octets_cutNote]
    omega
  · rw [clipped_of_le short]
    omega

end ProfileClient.Text
