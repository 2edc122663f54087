import ProfileClient.Text.Utf8
/-!
Texts and their octets: octets are read as a text just if they are the octets of its characters, one
character after the other.
-/
namespace ProfileClient.Text.Utf8

def Within (low high octet : UInt8) : Prop := low.toNat ≤ octet.toNat ∧ octet.toNat ≤ high.toNat

/-- An octet after the first one of a character. -/
def Follows (octet : UInt8) : Prop := Within 0x80 0xBF octet

theorem Follows.bounds {octet : UInt8} (follows : Follows octet) :
    0x80 ≤ octet.toNat ∧ octet.toNat ≤ 0xBF := follows

/-- The octets of a character and its value, by their number. -/
inductive Form : List UInt8 → Nat → Prop
  | one {lead : UInt8} {n : Nat} (leads : lead.toNat < 0x80) (value : n = lead.toNat) :
    Form [lead] n
  | two {lead second : UInt8} {n : Nat} (leads : 0xC2 ≤ lead.toNat ∧ lead.toNat < 0xE0)
      (follows : Follows second)
      (value : n = (lead.toNat - 0xC0) * 64 + (second.toNat - 0x80)) : Form [lead, second] n
  | three {lead second third : UInt8} {n : Nat} (leads : 0xE0 ≤ lead.toNat ∧ lead.toNat < 0xF0)
      (follows : Follows second ∧ Follows third)
      (value : n = ((lead.toNat - 0xE0) * 64 + (second.toNat - 0x80)) * 64 + (third.toNat - 0x80))
      (large : 0x800 ≤ n) (valid : n.isValidChar) : Form [lead, second, third] n
  | four {lead second third fourth : UInt8} {n : Nat}
      (leads : 0xF0 ≤ lead.toNat ∧ lead.toNat < 0xF8)
      (follows : Follows second ∧ Follows third ∧ Follows fourth)
      (value : n = (((lead.toNat - 0xF0) * 64 + (second.toNat - 0x80)) * 64 +
        (third.toNat - 0x80)) * 64 + (fourth.toNat - 0x80))
      (large : 0x10000 ≤ n) (valid : n.isValidChar) : Form [lead, second, third, fourth] n

theorem toNat_ofNat {n : Nat} (valid : n.isValidChar) : (Char.ofNat n).val.toNat = n := by
  unfold Char.ofNat
  rw [dif_pos valid]
  rfl

theorem ofNat_eq_iff {n : Nat} {octet : UInt8} : UInt8.ofNat n = octet ↔ n % 256 = octet.toNat := by
  rw [← UInt8.toNat_inj, UInt8.toNat_ofNat']

theorem Form.encode {octets : List UInt8} {n : Nat} (form : Form octets n) :
    String.utf8EncodeChar (Char.ofNat n) = octets := by
  have valid : n.isValidChar := by
    cases form with
    | one leads value =>
        unfold Nat.isValidChar
        omega
    | two leads follows =>
        have bounds := follows.bounds
        unfold Nat.isValidChar
        omega
    | three leads follows value large valid => exact valid
    | four leads follows value large valid => exact valid
  unfold String.utf8EncodeChar
  simp only [toNat_ofNat valid]
  cases form with
  | one leads value => rw [if_pos (by omega), value, UInt8.ofNat_toNat]
  | two leads follows value =>
      have bounds := follows.bounds
      rw [if_neg (by omega), if_pos (by omega)]
      simp only [List.cons.injEq, ofNat_eq_iff, and_true]
      omega
  | three leads follows value =>
      have bounds := And.imp Follows.bounds Follows.bounds follows
      rw [if_neg (by omega), if_neg (by omega), if_pos (by omega)]
      simp only [List.cons.injEq, ofNat_eq_iff, and_true]
      omega
  | four leads follows value =>
      have second := follows.1.bounds
      have others := And.imp Follows.bounds Follows.bounds follows.2
      unfold Nat.isValidChar at valid
      rw [if_neg (by omega), if_neg (by omega), if_neg (by omega)]
      simp only [List.cons.injEq, ofNat_eq_iff, and_true]
      omega

theorem form_encode (c : Char) : Form (String.utf8EncodeChar c) c.toNat := by
  have valid : c.val.toNat.isValidChar := c.valid
  have bounds : c.val.toNat < 0xD800 ∨ 0xDFFF < c.val.toNat ∧ c.val.toNat < 0x110000 := valid
  change Form (String.utf8EncodeChar c) c.val.toNat
  unfold String.utf8EncodeChar
  generalize c.val.toNat = n at valid bounds
  dsimp only
  split
  · refine .one ?_ ?_
    all_goals
      rw [UInt8.toNat_ofNat']
      omega
  split
  · refine .two ?_ ?_ ?_
    all_goals
      simp only [Follows, Within, UInt8.toNat_ofNat', UInt8.reduceToNat]
      omega
  split
  · refine .three ?_ ?_ ?_ (by omega) valid
    all_goals
      simp only [Follows, Within, UInt8.toNat_ofNat', UInt8.reduceToNat]
      omega
  · refine .four ?_ ?_ ?_ (by omega) valid
    all_goals
      simp only [Follows, Within, UInt8.toNat_ofNat', UInt8.reduceToNat]
      omega

/-- An octet below 0x80 stands only for the character of its value. -/
theorem Form.eq_of_mem {octets : List UInt8} {n : Nat} (form : Form octets n) {octet : UInt8}
    (mem : octet ∈ octets) (low : octet.toNat < 0x80) : n = octet.toNat := by
  cases form with
  | one leads value =>
      rw [List.mem_singleton.mp mem]
      exact value
  | two leads follows =>
      have bounds := follows.bounds
      simp only [List.mem_cons, List.not_mem_nil, or_false] at mem
      obtain rfl | rfl := mem <;> omega
  | three leads follows =>
      have bounds := And.imp Follows.bounds Follows.bounds follows
      simp only [List.mem_cons, List.not_mem_nil, or_false] at mem
      obtain rfl | rfl | rfl := mem <;> omega
  | four leads follows =>
      have second := follows.1.bounds
      have others := And.imp Follows.bounds Follows.bounds follows.2
      simp only [List.mem_cons, List.not_mem_nil, or_false] at mem
      obtain rfl | rfl | rfl | rfl := mem <;> omega

/-- The octet of a line feed stands in no other character. -/
theorem feed_not_mem_encode {text : List Char} (single : '\n' ∉ text) :
    0x0A ∉ text.flatMap String.utf8EncodeChar := by
  intro mem
  obtain ⟨c, held, written⟩ := List.mem_flatMap.mp mem
  have value : c.toNat = 0x0A := (form_encode c).eq_of_mem written (by decide)
  have feed : c = '\n' := Char.toNat_inj.mp value
  exact single (feed ▸ held)

/-- The rest of a character after an octet within bounds. -/
def onward (value : Nat) : (more : Nat) → List UInt8 → Option Char × List UInt8
  | 0, rest => (some (Char.ofNat value), rest)
  | more + 1, rest => follow 0x80 0xBF value more rest

section Follow
variable {low high octet : UInt8} {value more : Nat} {octets rest : List UInt8} {c : Char}

theorem follow_cons (within : Within low high octet) :
    follow low high value more (octet :: rest) =
      onward (value * 64 + (octet.toNat - 0x80)) more rest := by
  rw [follow, if_pos ⟨UInt8.le_iff_toNat_le.mpr within.1, UInt8.le_iff_toNat_le.mpr within.2⟩]
  cases more <;> rfl

/-- A character that is read on has a next octet within bounds. -/
theorem exists_of_follow (read : follow low high value more octets = (some c, rest)) :
    ∃ octet after, octets = octet :: after ∧ Within low high octet ∧
      onward (value * 64 + (octet.toNat - 0x80)) more after = (some c, rest) := by
  cases octets with
  | nil => simp [follow] at read
  | cons octet after =>
      by_cases inside : low ≤ octet ∧ octet ≤ high
      · have within := And.imp UInt8.le_iff_toNat_le.mp UInt8.le_iff_toNat_le.mp inside
        rw [follow_cons within] at read
        exact ⟨octet, after, rfl, within, read⟩
      · rw [follow, if_neg inside] at read
        cases read

end Follow

/-- The least octet after the first one of three or four: below it a shorter form would do. -/
def least (lead : UInt8) : UInt8 := if lead = 0xE0 then 0xA0 else if lead = 0xF0 then 0x90 else 0x80
/-- The greatest octet there: above it stand surrogates and values of no character. -/
def greatest (lead : UInt8) : UInt8 :=
  if lead = 0xED then 0x9F else if lead = 0xF4 then 0x8F else 0xBF

section Lead
variable {lead : UInt8} (rest : List UInt8)

theorem character_one (leads : lead.toNat < 0x80) :
    character lead rest = (some (Char.ofNat lead.toNat), rest) := by
  rw [character, if_pos (UInt8.lt_iff_toNat_lt.mpr leads)]

theorem character_two (leads : 0xC2 ≤ lead.toNat ∧ lead.toNat < 0xE0) :
    character lead rest = follow 0x80 0xBF (lead.toNat - 0xC0) 0 rest := by
  simp only [character, UInt8.lt_iff_toNat_lt, UInt8.reduceToNat]
  rw [if_neg (by omega), if_neg (by omega), if_pos (by omega)]

theorem character_three (leads : 0xE0 ≤ lead.toNat ∧ lead.toNat < 0xF0) :
    character lead rest = follow (least lead) (greatest lead) (lead.toNat - 0xE0) 1 rest := by
  have noFour : lead.toNat ≠ 0xF0 ∧ lead.toNat ≠ 0xF4 := by omega
  simp only [character, least, greatest, UInt8.lt_iff_toNat_lt, ← UInt8.toNat_inj,
    UInt8.reduceToNat]
  rw [if_neg (by omega), if_neg (by omega), if_neg (by omega)]
  by_cases first : lead.toNat = 0xE0
  · simp [first]
  by_cases last : lead.toNat = 0xED
  · simp [last]
  · simp [first, last, leads, noFour]

theorem character_four (leads : 0xF0 ≤ lead.toNat ∧ lead.toNat ≤ 0xF4) :
    character lead rest = follow (least lead) (greatest lead) (lead.toNat - 0xF0) 2 rest := by
  have noThree : lead.toNat ≠ 0xE0 ∧ lead.toNat ≠ 0xED := by omega
  simp only [character, least, greatest, UInt8.lt_iff_toNat_lt, ← UInt8.toNat_inj,
    UInt8.reduceToNat]
  rw [if_neg (by omega), if_neg (by omega), if_neg (by omega), if_neg noThree.1,
    if_neg noThree.2, if_neg (by omega)]
  by_cases first : lead.toNat = 0xF0
  · simp [first]
  by_cases last : lead.toNat = 0xF4
  · simp [last]
  · have inner : lead.toNat < 0xF4 := by omega
    simp [first, last, inner, noThree]

theorem leads_of_character {after : List UInt8} {c : Char}
    (read : character lead rest = (some c, after)) :
    lead.toNat < 0x80 ∨ (0xC2 ≤ lead.toNat ∧ lead.toNat < 0xE0) ∨
      (0xE0 ≤ lead.toNat ∧ lead.toNat < 0xF0) ∨ (0xF0 ≤ lead.toNat ∧ lead.toNat ≤ 0xF4) := by
  simp only [character, UInt8.lt_iff_toNat_lt, ← UInt8.toNat_inj, UInt8.reduceToNat] at read
  split at read
  · omega
  split at read
  · cases read
  split at read
  · omega
  iterate 6
    split at read
    · omega
  cases read

end Lead

section Bounds
variable {lead second third fourth : UInt8} {n : Nat}

theorem least_cases (lead : UInt8) :
    (lead.toNat = 0xE0 ∧ (least lead).toNat = 0xA0) ∨
      (lead.toNat = 0xF0 ∧ (least lead).toNat = 0x90) ∨
      (lead.toNat ≠ 0xE0 ∧ lead.toNat ≠ 0xF0 ∧ (least lead).toNat = 0x80) := by
  simp only [least, ← UInt8.toNat_inj, UInt8.reduceToNat]
  split
  · next first => exact .inl ⟨first, rfl⟩
  · next noFirst =>
      split
      · next first => exact .inr (.inl ⟨first, rfl⟩)
      · next other => exact .inr (.inr ⟨noFirst, other, rfl⟩)

theorem greatest_cases (lead : UInt8) :
    (lead.toNat = 0xED ∧ (greatest lead).toNat = 0x9F) ∨
      (lead.toNat = 0xF4 ∧ (greatest lead).toNat = 0x8F) ∨
      (lead.toNat ≠ 0xED ∧ lead.toNat ≠ 0xF4 ∧ (greatest lead).toNat = 0xBF) := by
  simp only [greatest, ← UInt8.toNat_inj, UInt8.reduceToNat]
  split
  · next last => exact .inl ⟨last, rfl⟩
  · next noLast =>
      split
      · next last => exact .inr (.inl ⟨last, rfl⟩)
      · next other => exact .inr (.inr ⟨noLast, other, rfl⟩)

/-- The second octet keeps the value above the shorter forms, clear of surrogates and within the
range of characters. -/
theorem within_three_iff (leads : 0xE0 ≤ lead.toNat ∧ lead.toNat < 0xF0) (follows : Follows third)
    (value : n = ((lead.toNat - 0xE0) * 64 + (second.toNat - 0x80)) * 64 +
      (third.toNat - 0x80)) :
    Within (least lead) (greatest lead) second ↔
      Follows second ∧ 0x800 ≤ n ∧ n.isValidChar := by
  have bounds := follows.bounds
  have low := least_cases lead
  have high := greatest_cases lead
  simp only [Follows, Within, UInt8.reduceToNat, Nat.isValidChar]
  omega

theorem within_four_iff (leads : 0xF0 ≤ lead.toNat) (follows : Follows third ∧ Follows fourth)
    (value : n = (((lead.toNat - 0xF0) * 64 + (second.toNat - 0x80)) * 64 +
      (third.toNat - 0x80)) * 64 + (fourth.toNat - 0x80)) :
    lead.toNat ≤ 0xF4 ∧ Within (least lead) (greatest lead) second ↔
      Follows second ∧ 0x10000 ≤ n ∧ n.isValidChar := by
  have bounds := And.imp Follows.bounds Follows.bounds follows
  have low := least_cases lead
  have high := greatest_cases lead
  simp only [Follows, Within, UInt8.reduceToNat, Nat.isValidChar]
  omega

end Bounds

theorem of_onward {value : Nat} {octets rest : List UInt8} {c : Char}
    (read : onward value 0 octets = (some c, rest)) : Char.ofNat value = c ∧ octets = rest := by
  simpa [onward] using read

theorem Form.read {octets : List UInt8} {n : Nat} (form : Form octets n) (rest : List UInt8) :
    ∃ lead tail, octets = lead :: tail ∧
      character lead (tail ++ rest) = (some (Char.ofNat n), rest) := by
  cases form with
  | @one lead n leads value =>
      refine ⟨lead, [], rfl, ?_⟩
      rw [character_one _ leads, value]
      rfl
  | @two lead second n leads follows value =>
      refine ⟨lead, [second], rfl, ?_⟩
      rw [character_two _ leads, List.singleton_append, follow_cons follows, value]
      rfl
  | @three lead second third n leads follows value large valid =>
      have within := (within_three_iff leads follows.2 value).mpr ⟨follows.1, large, valid⟩
      refine ⟨lead, [second, third], rfl, ?_⟩
      rw [character_three _ leads, List.cons_append, follow_cons within, onward,
        List.singleton_append, follow_cons follows.2, value]
      rfl
  | @four lead second third fourth n leads follows value large valid =>
      have within := (within_four_iff leads.1 follows.2 value).mpr ⟨follows.1, large, valid⟩
      refine ⟨lead, [second, third, fourth], rfl, ?_⟩
      rw [character_four _ ⟨leads.1, within.1⟩, List.cons_append, follow_cons within.2, onward,
        List.cons_append, follow_cons follows.2.1, onward, List.singleton_append,
        follow_cons follows.2.2, value]
      rfl

theorem form_of_character {lead : UInt8} {rest after : List UInt8} {c : Char}
    (read : character lead rest = (some c, after)) :
    ∃ tail n, rest = tail ++ after ∧ Form (lead :: tail) n ∧ Char.ofNat n = c := by
  rcases leads_of_character rest read with leads | leads | leads | leads
  · rw [character_one rest leads] at read
    obtain ⟨rfl, rfl⟩ := of_onward read
    exact ⟨[], _, rfl, .one leads rfl, rfl⟩
  · rw [character_two rest leads] at read
    obtain ⟨second, after', rfl, follows, read⟩ := exists_of_follow read
    obtain ⟨rfl, rfl⟩ := of_onward read
    exact ⟨[second], _, rfl, .two leads follows rfl, rfl⟩
  · rw [character_three rest leads] at read
    obtain ⟨second, rest, rfl, within, read⟩ := exists_of_follow read
    obtain ⟨third, rest, rfl, follows, read⟩ := exists_of_follow read
    obtain ⟨rfl, rfl⟩ := of_onward read
    obtain ⟨first, large, valid⟩ := (within_three_iff leads follows rfl).mp within
    exact ⟨[second, third], _, rfl, .three leads ⟨first, follows⟩ rfl large valid, rfl⟩
  · rw [character_four rest leads] at read
    obtain ⟨second, rest, rfl, within, read⟩ := exists_of_follow read
    obtain ⟨third, rest, rfl, follows, read⟩ := exists_of_follow read
    obtain ⟨fourth, rest, rfl, last, read⟩ := exists_of_follow read
    obtain ⟨rfl, rfl⟩ := of_onward read
    obtain ⟨first, large, valid⟩ :=
      (within_four_iff leads.1 ⟨follows, last⟩ rfl).mp ⟨leads.2, within⟩
    exact ⟨[second, third, fourth], _, rfl,
      .four ⟨leads.1, by omega⟩ ⟨first, follows, last⟩ rfl large valid, rfl⟩

theorem charactersOnto_eq (octets : List UInt8) (seen : List (Option Char)) :
    charactersOnto seen octets = seen.reverse ++ characters octets := by
  unfold characters
  induction h : octets.length using Nat.strongRecOn generalizing octets seen with
  | ind length ih =>
      cases octets with
      | nil => simp [charactersOnto]
      | cons lead rest =>
          have shorter : (character lead rest).2.length < length := by
            rw [← h, List.length_cons]
            exact Nat.lt_succ_of_le (length_character_le lead rest)
          simp only [charactersOnto]
          rw [ih _ shorter _ _ rfl, ih _ shorter _ [_] rfl]
          simp

theorem characters_cons (lead : UInt8) (rest : List UInt8) :
    characters (lead :: rest) =
      (character lead rest).1 :: characters (character lead rest).2 := by
  rw [characters, charactersOnto, charactersOnto_eq]
  rfl

theorem decode?_nil : decode? [] = some [] := by
  simp [decode?, characters, charactersOnto]

theorem decode?_cons_eq_some_iff {lead : UInt8} {rest : List UInt8} {text : List Char} :
    decode? (lead :: rest) = some text ↔
      ∃ c after others, character lead rest = (some c, after) ∧ decode? after = some others ∧
        c :: others = text := by
  rw [decode?, characters_cons, List.mapM_cons]
  rcases character lead rest with ⟨_ | c, after⟩
  · simp
  · simp only [id_eq, Option.bind_eq_bind, Option.bind_some, Option.bind_eq_some_iff,
      Option.pure_def, Option.some.injEq, Prod.mk.injEq]
    constructor
    · rintro ⟨others, read, rfl⟩
      exact ⟨c, after, others, ⟨rfl, rfl⟩, read, rfl⟩
    · rintro ⟨_, _, others, ⟨rfl, rfl⟩, read, rfl⟩
      exact ⟨others, read, rfl⟩

/-- Octets are read as a text just if they are the octets of its characters. -/
theorem decode?_eq_some_iff {octets : List UInt8} {text : List Char} :
    decode? octets = some text ↔ octets = text.flatMap String.utf8EncodeChar := by
  constructor
  · intro read
    induction text generalizing octets with
    | nil =>
        cases octets with
        | nil => rfl
        | cons lead rest =>
            obtain ⟨_, _, _, -, -, same⟩ := decode?_cons_eq_some_iff.mp read
            cases same
    | cons c text ih =>
        cases octets with
        | nil => cases decode?_nil.symm.trans read
        | cons lead rest =>
            obtain ⟨_, after, _, first, others, same⟩ := decode?_cons_eq_some_iff.mp read
            cases same
            obtain ⟨tail, n, rfl, form, rfl⟩ := form_of_character first
            rw [List.flatMap_cons, ← ih others, form.encode, List.cons_append]
  · rintro rfl
    induction text with
    | nil => exact decode?_nil
    | cons c text ih =>
        obtain ⟨lead, tail, written, read⟩ :=
          (form_encode c).read (text.flatMap String.utf8EncodeChar)
        rw [Char.ofNat_toNat] at read
        rw [List.flatMap_cons, written, List.cons_append]
        exact decode?_cons_eq_some_iff.mpr ⟨c, _, text, read, ih, rfl⟩

/-- Octets that are those of a text are shown as that text. -/
theorem decodeLossy_encode (text : List Char) :
    decodeLossy (text.flatMap String.utf8EncodeChar) = text := by
  induction text with
  | nil => simp [decodeLossy, characters, charactersOnto]
  | cons c text ih =>
      obtain ⟨lead, tail, written, read⟩ :=
        (form_encode c).read (text.flatMap String.utf8EncodeChar)
      rw [Char.ofNat_toNat] at read
      rw [List.flatMap_cons, written, List.cons_append, decodeLossy, characters_cons, read]
      exact congrArg (c :: ·) ih

section Ascii
variable {octet : UInt8} {octets rest : List UInt8}

theorem encode_ascii {c : Char} (low : c.toNat < 0x80) :
    ∃ octet, String.utf8EncodeChar c = [octet] ∧ octet.toNat = c.toNat := by
  have form := form_encode c
  generalize String.utf8EncodeChar c = octets at form
  generalize c.toNat = n at form low
  cases form with
  | one leads value => exact ⟨_, rfl, value.symm⟩
  | two leads follows value => omega
  | three leads follows value large => omega
  | four leads follows value large => omega

theorem mem_follow {bound high : UInt8} (above : 0x80 ≤ bound.toNat) (low : octet.toNat < 0x80)
    (value more : Nat) (mem : octet ∈ octets) :
    octet ∈ (follow bound high value more octets).2 := by
  induction octets generalizing bound high value more with
  | nil => cases mem
  | cons first rest ih =>
      unfold follow
      split
      · next within =>
          have least := UInt8.le_iff_toNat_le.mp within.1
          rcases List.mem_cons.mp mem with rfl | later
          · omega
          · cases more with
            | zero => exact later
            | succ more => exact ih (by decide) _ _ later
      · exact mem

theorem mem_character (low : octet.toNat < 0x80) (lead : UInt8) (mem : octet ∈ rest) :
    octet ∈ (character lead rest).2 := by
  unfold character
  repeat' split
  all_goals first | exact mem | exact mem_follow (by decide) low _ _ mem

theorem mem_characters (low : octet.toNat < 0x80) (mem : octet ∈ octets) :
    some (Char.ofNat octet.toNat) ∈ characters octets := by
  induction h : octets.length using Nat.strongRecOn generalizing octets with
  | ind length ih =>
      cases octets with
      | nil => cases mem
      | cons lead rest =>
          have shorter : (character lead rest).2.length < length := by
            rw [← h, List.length_cons]
            exact Nat.lt_succ_of_le (length_character_le lead rest)
          rw [characters_cons]
          rcases List.mem_cons.mp mem with rfl | later
          · rw [character_one rest low]
            exact List.mem_cons_self
          · exact List.mem_cons_of_mem _ (ih _ shorter (mem_character low lead later) rfl)

/-- No fault swallows an octet below 0x80. -/
theorem mem_decodeLossy (low : octet.toNat < 0x80) (mem : octet ∈ octets) :
    Char.ofNat octet.toNat ∈ decodeLossy octets :=
  List.mem_map.mpr ⟨_, mem_characters low mem, rfl⟩

end Ascii

end ProfileClient.Text.Utf8
