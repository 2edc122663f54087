import ProfileClient.Proofs.Json.Numeral
/-!
What written values look like: the character they start with and the characters they hold.
-/
namespace ProfileClient.Json

/-- A character that a value may start with. -/
def StartsValue (c : Char) : Prop :=
  c.isDigit = true ∨ c ∈ ['n', 't', 'f', '"', '-', '[', '\x7b']

theorem StartsValue.isSpace_eq_false {c : Char} (starts : StartsValue c) : isSpace c = false := by
  cases space : isSpace c with
  | false => rfl
  | true =>
      simp only [isSpace, Bool.or_eq_true, beq_iff_eq] at space
      rcases space with ((rfl | rfl) | rfl) | rfl <;> revert starts <;> simp [StartsValue]

theorem StartsValue.ne {c : Char} (starts : StartsValue c) : c ≠ ']' ∧ c ≠ '\x7d' ∧ c ≠ 'N' := by
  refine ⟨?_, ?_, ?_⟩ <;> rintro rfl <;> revert starts <;> simp [StartsValue]

theorem StartsValue.of_number {c : Char} (sign : c = '-' ∨ c.isDigit = true) : StartsValue c := by
  rcases sign with rfl | digit
  · exact .inr (by simp)
  · exact .inl digit

theorem natural_head (n : Nat) : ∃ c rest, natural n = c :: rest ∧ c.isDigit = true := by
  cases split : natural n with
  | nil => exact absurd split Nat.toDigits_ne_nil
  | cons c rest => exact ⟨c, rest, rfl, isDigit_of_mem_natural (split ▸ List.mem_cons_self)⟩

theorem positional_head {c : Char} (digit : c.isDigit = true) (digits : List Char) (leading : Int) :
    ∃ c' rest, positional (c :: digits) leading = c' :: rest ∧ c'.isDigit = true := by
  unfold positional
  split
  · exact ⟨'0', _, rfl, rfl⟩
  · exact ⟨c, _, rfl, digit⟩

theorem scientific_head (c : Char) (digits : List Char) (leading : Int) :
    ∃ rest, scientific (c :: digits) leading = c :: rest := by
  cases digits with
  | nil => exact ⟨_, rfl⟩
  | cons d digits => exact ⟨_, rfl⟩

theorem fractional_head (x : Binary64) : ∃ c rest, fractional x = c :: rest ∧ StartsValue c := by
  obtain ⟨d, digits, written, digit⟩ := natural_head x.shortest.digits
  unfold fractional
  simp only [written]
  split
  · exact ⟨'-', _, rfl, .inr (by simp)⟩
  · split
    · obtain ⟨c, rest, written, digit⟩ := positional_head digit digits
        (x.shortest.scale + (d :: digits).length - 1)
      exact ⟨c, rest, written, .inl digit⟩
    · obtain ⟨rest, written⟩ := scientific_head d digits
        (x.shortest.scale + (d :: digits).length - 1)
      exact ⟨d, rest, written, .inl digit⟩

theorem integer_head (i : Int) :
    ∃ c rest, integer i = c :: rest ∧ (c = '-' ∨ c.isDigit = true) := by
  unfold integer
  split
  · exact ⟨'-', _, rfl, .inl rfl⟩
  · obtain ⟨c, rest, written, digit⟩ := natural_head i.natAbs
    exact ⟨c, rest, written, .inr digit⟩

theorem printAt_head (spacing : Spacing) (level : Nat) (v : Json) :
    ∃ c rest, printAt spacing level v = c :: rest ∧ StartsValue c := by
  cases v with
  | null => exact ⟨'n', _, rfl, .inr (by simp)⟩
  | bool b => cases b with
    | false => exact ⟨'f', _, rfl, .inr (by simp)⟩
    | true => exact ⟨'t', _, rfl, .inr (by simp)⟩
  | number n => cases n with
    | whole i =>
        obtain ⟨c, rest, written, sign⟩ := integer_head i
        exact ⟨c, rest, written, .of_number sign⟩
    | real x => exact fractional_head x
  | string s => exact ⟨'"', _, rfl, .inr (by simp)⟩
  | array items => cases items with
    | nil => exact ⟨'[', _, rfl, .inr (by simp)⟩
    | cons item items => exact ⟨'[', _, rfl, .inr (by simp)⟩
  | object members => cases members with
    | nil => exact ⟨'\x7b', _, rfl, .inr (by simp)⟩
    | cons member members => exact ⟨'\x7b', _, rfl, .inr (by simp)⟩

/-- A character from the space on: no line break and no other control character below it. -/
def Printable (c : Char) : Prop := 0x20 ≤ c.toNat

instance : DecidablePred Printable := fun c => inferInstanceAs (Decidable (0x20 ≤ c.toNat))

theorem printable_of_all {w : List Char} (all : (w.all fun c => 0x20 ≤ c.toNat) = true) :
    ∀ c ∈ w, Printable c := by
  intro c mem
  exact of_decide_eq_true (List.all_eq_true.mp all c mem)

theorem printable_of_isDigit {c : Char} (digit : c.isDigit = true) : Printable c := by
  simp only [Char.isDigit, Bool.and_eq_true, decide_eq_true_eq] at digit
  exact Nat.le_trans (by decide) (UInt32.le_iff_toNat_le.mp digit.1)

theorem printable_hexDigit {n : Nat} (h : n < 16) : Printable (hexDigit n) := by
  unfold Printable
  revert n
  decide

theorem printable_of_shortEscape? {letter c : Char} (stands : shortEscape? letter = some c) :
    Printable letter := by
  unfold shortEscape? at stands
  split at stands
  all_goals first | decide | cases stands

theorem printable_of_mem_escape {c d : Char} (mem : d ∈ escape c) : Printable d := by
  rcases escape_cases c with ⟨letter, written, -, stands⟩ | ⟨control, written⟩ |
    ⟨written, -, -, printable⟩
  · rw [written] at mem
    rcases List.mem_cons.mp mem with rfl | mem
    · decide
    · cases List.mem_singleton.mp mem
      exact printable_of_shortEscape? stands
  · rw [written] at mem
    simp only [List.mem_cons, List.not_mem_nil, or_false] at mem
    rcases mem with rfl | rfl | rfl | rfl | rfl | rfl
    · decide
    · decide
    · decide
    · decide
    · exact printable_hexDigit (by omega)
    · exact printable_hexDigit (by omega)
  · rw [written] at mem
    cases List.mem_singleton.mp mem
    exact Nat.le_of_not_lt printable

theorem printable_of_mem_quote {s : String} {c : Char} (mem : c ∈ quote s) : Printable c := by
  simp only [quote, List.mem_append, List.mem_cons, List.mem_flatMap, List.not_mem_nil,
    or_false] at mem
  rcases mem with (rfl | ⟨d, -, mem⟩) | rfl
  · decide
  · exact printable_of_mem_escape mem
  · decide

theorem printable_of_mem_natural {n : Nat} {c : Char} (mem : c ∈ natural n) : Printable c :=
  printable_of_isDigit (isDigit_of_mem_natural mem)

theorem printable_of_mem_positional {digits : List Char} {leading : Int}
    (printable : ∀ c ∈ digits, Printable c) :
    ∀ c ∈ positional digits leading, Printable c := by
  intro c mem
  unfold positional at mem
  split at mem
  · simp only [List.mem_append, List.mem_cons, List.mem_replicate] at mem
    rcases mem with (rfl | rfl | ⟨-, rfl⟩) | mem
    · decide
    · decide
    · decide
    · exact printable c mem
  · simp only [List.mem_append, List.mem_cons, List.mem_replicate] at mem
    rcases mem with (mem | ⟨-, rfl⟩) | rfl | mem
    · exact printable c (List.mem_of_mem_take mem)
    · decide
    · decide
    · split at mem
      · cases List.mem_singleton.mp mem
        decide
      · exact printable c (List.mem_of_mem_drop mem)

theorem printable_of_mem_scientific {digits : List Char} {leading : Int}
    (printable : ∀ c ∈ digits, Printable c) :
    ∀ c ∈ scientific digits leading, Printable c := by
  intro c mem
  unfold scientific at mem
  simp only [List.mem_append, List.mem_cons] at mem
  rcases mem with mem | rfl | rfl | mem
  · split at mem
    · cases mem
    · exact printable c mem
    · rcases List.mem_cons.mp mem with rfl | mem
      · exact printable c List.mem_cons_self
      · rcases List.mem_cons.mp mem with rfl | mem
        · decide
        · exact printable c (List.mem_cons_of_mem _ mem)
  · decide
  · split <;> decide
  · exact printable_of_mem_natural mem

theorem printable_of_mem_fractional {x : Binary64} {c : Char} (mem : c ∈ fractional x) :
    Printable c := by
  have digits : ∀ c ∈ natural x.shortest.digits, Printable c := fun _ => printable_of_mem_natural
  have unsigned : ∀ leading : Int, ∀ c ∈ (if leastPositional ≤ leading ∧
      leading ≤ greatestPositional then positional (natural x.shortest.digits) leading
      else scientific (natural x.shortest.digits) leading), Printable c := by
    intro leading
    split
    · exact printable_of_mem_positional digits
    · exact printable_of_mem_scientific digits
  unfold fractional at mem
  dsimp only at mem
  by_cases negative : x.negative = true
  · rw [if_pos negative] at mem
    rcases List.mem_cons.mp mem with rfl | mem
    · decide
    · exact unsigned _ c mem
  · rw [if_neg negative] at mem
    exact unsigned _ c mem

theorem printable_of_mem_print {n : Number} {c : Char} (mem : c ∈ n.print) : Printable c := by
  cases n with
  | whole i =>
      change c ∈ integer i at mem
      unfold integer at mem
      split at mem
      · rcases List.mem_cons.mp mem with rfl | mem
        · decide
        · exact printable_of_mem_natural mem
      · exact printable_of_mem_natural mem
  | real x => exact printable_of_mem_fractional mem

def Spacing.filter (p : Char → Bool) (spacing : Spacing) : Spacing where
  item depth := (spacing.item depth).filter p
  close depth := (spacing.close depth).filter p
  colon := spacing.colon.filter p

section Filter
variable {p : Char → Bool} (keeps : ∀ c, Printable c → p c = true)
include keeps

theorem filter_word {w : List Char} (printable : ∀ c ∈ w, Printable c) : w.filter p = w :=
  List.filter_eq_self.mpr fun c mem => keeps c (printable c mem)

variable (spacing : Spacing)

mutual

/-- What a filter that keeps printable characters leaves out stands between the lexemes. -/
theorem filter_printAt (level : Nat) : (v : Json) →
    (printAt spacing level v).filter p = printAt (spacing.filter p) level v
  | .null => filter_word keeps (printable_of_all (w := "null".toList) rfl)
  | .bool true => filter_word keeps (printable_of_all (w := "true".toList) rfl)
  | .bool false => filter_word keeps (printable_of_all (w := "false".toList) rfl)
  | .number n => filter_word keeps fun _ => printable_of_mem_print
  | .string s => filter_word keeps fun _ => printable_of_mem_quote
  | .array [] => filter_word keeps (printable_of_all (w := "[]".toList) rfl)
  | .array (item :: items) => by
      have opening := keeps '[' (by decide)
      have closing := keeps ']' (by decide)
      simp [printAt, Spacing.filter, opening, closing, filter_printAt (level + 1) item,
        filter_printItems (level + 1) items]
  | .object [] => filter_word keeps (printable_of_all (w := ['\x7b', '\x7d']) rfl)
  | .object ((name, v) :: members) => by
      have opening := keeps '\x7b' (by decide)
      have closing := keeps '\x7d' (by decide)
      have colon := keeps ':' (by decide)
      have quoted := filter_word keeps fun _ => printable_of_mem_quote (s := name)
      simp [printAt, Spacing.filter, opening, closing, colon, quoted,
        filter_printAt (level + 1) v, filter_printMembers (level + 1) members]

theorem filter_printItems (level : Nat) : (items : List Json) →
    (printItems spacing level items).filter p = printItems (spacing.filter p) level items
  | [] => rfl
  | item :: items => by
      have comma := keeps ',' (by decide)
      simp [printItems, Spacing.filter, comma, filter_printAt level item,
        filter_printItems level items]

theorem filter_printMembers (level : Nat) : (members : List (String × Json)) →
    (printMembers spacing level members).filter p = printMembers (spacing.filter p) level members
  | [] => rfl
  | (name, v) :: members => by
      have comma := keeps ',' (by decide)
      have colon := keeps ':' (by decide)
      have quoted := filter_word keeps fun _ => printable_of_mem_quote (s := name)
      simp [printMembers, Spacing.filter, comma, colon, quoted, filter_printAt level v,
        filter_printMembers level members]

end

end Filter

theorem count_item (depth : Nat) : (Spacing.indented.item depth).count '\n' = 1 := by
  have blanks : (List.replicate (2 * depth) ' ').count '\n' = 0 :=
    List.count_eq_zero.mpr fun mem => absurd (List.eq_of_mem_replicate mem) (by decide)
  change (lineAt depth).count '\n' = 1
  rw [lineAt, List.count_cons_self, blanks]

theorem length_le_count_printItems (depth : Nat) (items : List Json) :
    items.length ≤ (printItems .indented depth items).count '\n' := by
  induction items with
  | nil => exact Nat.zero_le _
  | cons item items ih =>
      rw [printItems, List.length_cons, List.count_append, List.count_append, List.count_cons,
        count_item]
      omega

/-- Each item of an array stands on a line of its own. -/
theorem length_le_count_pretty (items : List Json) :
    items.length ≤ (pretty (.array items)).toList.count '\n' := by
  rw [pretty, String.toList_ofList]
  cases items with
  | nil => exact Nat.zero_le _
  | cons item items =>
      have rest := length_le_count_printItems (0 + 1) items
      rw [printAt, List.length_cons]
      simp only [List.count_append, List.count_cons, count_item]
      omega

end ProfileClient.Json
