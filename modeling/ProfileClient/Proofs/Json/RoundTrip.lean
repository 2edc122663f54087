import ProfileClient.Proofs.Json.Orderly
import ProfileClient.Proofs.Json.Written
/-!
Values read back: what the printer writes, with any blanks between the lexemes, gives the value that
was written.
-/
namespace ProfileClient.Json

/-- A value all of whose numbers are whole. -/
inductive Integral : Json → Prop
  | null : Integral .null
  | bool (b : Bool) : Integral (.bool b)
  | number (i : Int) : Integral (.number (.whole i))
  | string (s : String) : Integral (.string s)
  | array {items : List Json} (inner : ∀ item ∈ items, Integral item) : Integral (.array items)
  | object {members : List (String × Json)} (inner : ∀ member ∈ members, Integral member.2) :
    Integral (.object members)

/-- The blanks of a written form are blanks to a reader. -/
structure Spacing.Blank (spacing : Spacing) : Prop where
  item : ∀ depth, ∀ c ∈ spacing.item depth, isSpace c = true
  close : ∀ depth, ∀ c ∈ spacing.close depth, isSpace c = true
  colon : ∀ c ∈ spacing.colon, isSpace c = true

theorem Spacing.compact_blank : Spacing.compact.Blank := by
  constructor <;> simp [Spacing.compact]

theorem Spacing.indented_blank : Spacing.indented.Blank := by
  constructor <;> simp [Spacing.indented, lineAt, isSpace]

/-- A reader gives the value for the text, whatever blanks stand before it and whatever follows it
that does not continue a numeral. -/
def Reader.ReadsAs {α : Type} (reader : Reader α) (text : List Char) (value : α) : Prop :=
  ∀ blanks rest, (∀ c ∈ blanks, isSpace c = true) → EndsNumeral rest →
    (reader (blanks ++ (text ++ rest))).Gives value rest

section Lists
variable {origin text next after rest : List Char} {reader : Reader Json} {item result : Json}

theorem itemsOnto_last {done : List Json} (read : (reader text).Gives item next)
    (bracket : skipSpace next = ']' :: after) (h : text.length ≤ origin.length) :
    (itemsOnto reader done text h).Gives (.array (done.reverse ++ [item])) after := by
  obtain ⟨shorter, read⟩ := read
  have left := length_le_of_skipSpace bracket
  refine ⟨by omega, ?_⟩
  rw [itemsOnto, read]
  dsimp only
  split
  · next none => cases bracket.symm.trans none
  · next c tail found =>
      cases bracket.symm.trans found
      rw [if_pos rfl, List.reverse_cons]

theorem itemsOnto_next {done : List Json} (read : (reader text).Gives item next)
    (comma : skipSpace next = ',' :: after)
    (tail : ∀ h : after.length ≤ origin.length,
      (itemsOnto reader (item :: done) after h).Gives result rest)
    (h : text.length ≤ origin.length) : (itemsOnto reader done text h).Gives result rest := by
  obtain ⟨shorter, read⟩ := read
  rw [itemsOnto, read]
  dsimp only
  split
  · next none => cases comma.symm.trans none
  · next c left found =>
      cases comma.symm.trans found
      rw [if_neg (by decide), if_pos rfl]
      exact tail _

theorem membersOnto_last {unicode : Reader Char} {done : List (String × Json)} {name : String}
    {start : List Char} (named : (memberName unicode text).Gives name start)
    (read : (reader start).Gives item next) (brace : skipSpace next = '\x7d' :: after)
    (h : text.length ≤ origin.length) :
    (membersOnto unicode reader done text h).Gives (ofMembersReversed ((name, item) :: done))
      after := by
  obtain ⟨shorterName, named⟩ := named
  obtain ⟨shorter, read⟩ := read
  have left := length_le_of_skipSpace brace
  refine ⟨by omega, ?_⟩
  rw [membersOnto, named]
  dsimp only
  rw [read]
  dsimp only
  split
  · next none => cases brace.symm.trans none
  · next c tail found =>
      cases brace.symm.trans found
      rw [if_pos rfl]

theorem membersOnto_next {unicode : Reader Char} {done : List (String × Json)} {name : String}
    {start : List Char} (named : (memberName unicode text).Gives name start)
    (read : (reader start).Gives item next) (comma : skipSpace next = ',' :: after)
    (tail : ∀ h : after.length ≤ origin.length,
      (membersOnto unicode reader ((name, item) :: done) after h).Gives result rest)
    (h : text.length ≤ origin.length) :
    (membersOnto unicode reader done text h).Gives result rest := by
  obtain ⟨shorterName, named⟩ := named
  obtain ⟨shorter, read⟩ := read
  rw [membersOnto, named]
  dsimp only
  rw [read]
  dsimp only
  split
  · next none => cases comma.symm.trans none
  · next c left found =>
      cases comma.symm.trans found
      rw [if_neg (by decide), if_pos rfl]
      exact tail _

end Lists

theorem memberName_gives_iff {unicode : Reader Char} {text start : List Char} {name : String} :
    (memberName unicode text).Gives name start ↔
      ∃ tail after, skipSpace text = '"' :: tail ∧ (quoted unicode tail).Gives name after ∧
        skipSpace after = ':' :: start := by
  unfold memberName
  constructor
  · intro named
    split at named
    · exact absurd named not_gives_error
    · next c tail first =>
        split at named
        · next quote =>
            subst quote
            split at named
            · exact absurd named not_gives_error
            · next after got =>
                split at named
                · exact absurd named not_gives_error
                · next c' start' colon =>
                    split at named
                    · next is =>
                        subst is
                        obtain ⟨rfl, rfl⟩ := gives_ok_iff.mp named
                        exact ⟨tail, after.1, first, ⟨after.2, got⟩, colon⟩
                    · exact absurd named not_gives_error
        · exact absurd named not_gives_error
  · rintro ⟨tail, after, opening, ⟨shorter, read⟩, colon⟩
    split
    · next none => cases opening.symm.trans none
    · next c tail' found =>
        cases opening.symm.trans found
        rw [if_pos rfl, read]
        dsimp only
        split
        · next none => cases colon.symm.trans none
        · next c start' found =>
            cases colon.symm.trans found
            rw [if_pos rfl]
            exact gives_ok_iff.mpr ⟨rfl, rfl⟩

theorem memberName_quote {blanks : List Char} (blank : ∀ c ∈ blanks, isSpace c = true)
    (name : String) (rest : List Char) :
    (memberName scalar (blanks ++ (quote name ++ ':' :: rest))).Gives name rest := by
  have opening : skipSpace (blanks ++ (quote name ++ ':' :: rest)) =
      '"' :: (name.toList.flatMap escape ++ '"' :: ':' :: rest) := by
    rw [skipSpace_append blank, quote_append]
    exact skipSpace_cons (by decide) _
  have colon : skipSpace (':' :: rest) = ':' :: rest := skipSpace_cons (by decide) rest
  exact memberName_gives_iff.mpr ⟨_, _, opening, quoted_escape name _, colon⟩

theorem endsNumeral_append {blanks : List Char} (blank : ∀ c ∈ blanks, isSpace c = true) {c : Char}
    (ends : c.isDigit = false ∧ c ≠ '.' ∧ c ≠ 'e' ∧ c ≠ 'E') (rest : List Char) :
    EndsNumeral (blanks ++ c :: rest) := by
  cases blanks with
  | nil => exact .cons ends
  | cons b blanks =>
      have space := blank b List.mem_cons_self
      simp only [isSpace, Bool.or_eq_true, beq_iff_eq] at space
      rcases space with ((rfl | rfl) | rfl) | rfl <;> exact .cons (by decide)

/-- The text lists these members up to the closing brace, their values of at most `depth` levels,
and leaves the rest. -/
inductive Listed (depth : Nat) : (text : List Char) → List (String × Json) → (rest : List Char) →
    Prop
  | last {text start next rest : List Char} {name : String} {v : Json}
    (named : (memberName scalar text).Gives name start)
    (valued : (value .strict depth start).Gives v next)
    (brace : skipSpace next = '\x7d' :: rest) : Listed depth text [(name, v)] rest
  | more {text start next after rest : List Char} {name : String} {v : Json}
    {members : List (String × Json)} (named : (memberName scalar text).Gives name start)
    (valued : (value .strict depth start).Gives v next)
    (comma : skipSpace next = ',' :: after) (others : Listed depth after members rest) :
    Listed depth text ((name, v) :: members) rest

theorem Listed.membersOnto {depth : Nat} {text rest : List Char} {members : List (String × Json)}
    (listed : Listed depth text members rest) :
    ∀ (done : List (String × Json)) {origin : List Char} (h : text.length ≤ origin.length),
      (Json.membersOnto scalar (value .strict depth) done text h).Gives
        (ofMembersReversed (members.reverse ++ done)) rest := by
  induction listed with
  | last named valued brace => exact fun _ _ => membersOnto_last named valued brace
  | @more _ _ _ _ _ name v members named valued comma _ ih =>
      intro done origin h
      have tail := fun h => @ih ((name, v) :: done) origin h
      rw [List.reverse_cons, List.append_assoc, List.singleton_append]
      exact membersOnto_next named valued comma tail h

section Printed
variable {depth : Nat} {reader : Reader Json} {spacing : Spacing} {origin closing : List Char}

theorem printItems_cons_append (level : Nat) (item : Json) (items : List Json) (rest : List Char) :
    printItems spacing level (item :: items) ++ rest =
      ',' :: (spacing.item level ++
        (printAt spacing level item ++ (printItems spacing level items ++ rest))) := by
  simp [printItems]

theorem printMembers_cons_append (level : Nat) (name : String) (v : Json)
    (members : List (String × Json)) (rest : List Char) :
    printMembers spacing level ((name, v) :: members) ++ rest =
      ',' :: (spacing.item level ++ (quote name ++ ':' :: (spacing.colon ++
        (printAt spacing level v ++ (printMembers spacing level members ++ rest))))) := by
  simp [printMembers]

theorem printAt_object_append (level : Nat) (name : String) (v : Json)
    (members : List (String × Json)) (rest : List Char) :
    printAt spacing level (.object ((name, v) :: members)) ++ rest =
      '\x7b' :: (spacing.item (level + 1) ++ (quote name ++ ':' :: (spacing.colon ++
        (printAt spacing (level + 1) v ++ (printMembers spacing (level + 1) members ++
          (spacing.close level ++ '\x7d' :: rest)))))) := by
  simp [printAt]

theorem itemsOnto_printItems (blank : spacing.Blank) (level : Nat)
    (closes : ∀ c ∈ closing, isSpace c = true) (rest : List Char) (items : List Json) :
    ∀ (item : Json) (done : List Json) (blanks : List Char),
      (∀ v ∈ item :: items, reader.ReadsAs (printAt spacing level v) v) →
      (∀ c ∈ blanks, isSpace c = true) →
      ∀ h, (@itemsOnto reader origin done (blanks ++ (printAt spacing level item ++
        (printItems spacing level items ++ (closing ++ ']' :: rest)))) h).Gives
          (.array (done.reverse ++ item :: items)) rest := by
  induction items with
  | nil =>
      intro item done blanks reads before
      have read := reads item List.mem_cons_self blanks (closing ++ ']' :: rest) before
        (endsNumeral_append closes (by decide) rest)
      have bracket : skipSpace (closing ++ ']' :: rest) = ']' :: rest := by
        rw [skipSpace_append closes]
        exact skipSpace_cons (by decide) rest
      exact itemsOnto_last read bracket
  | cons second items ih =>
      intro item done blanks reads before
      rw [printItems_cons_append]
      have read := fun tail => reads item List.mem_cons_self blanks (',' :: tail) before
        (.cons (by decide))
      have tail := ih second (item :: done) (spacing.item level)
        (fun v mem => reads v (List.mem_cons_of_mem _ mem)) (blank.item level)
      rw [List.reverse_cons, List.append_assoc, List.singleton_append] at tail
      exact itemsOnto_next (read _) (skipSpace_cons (by decide) _) tail

theorem listed_printMembers (blank : spacing.Blank) (level : Nat)
    (closes : ∀ c ∈ closing, isSpace c = true) (rest : List Char)
    (members : List (String × Json)) :
    ∀ (name : String) (v : Json) (blanks : List Char),
      (∀ member ∈ (name, v) :: members,
        (value .strict depth).ReadsAs (printAt spacing level member.2) member.2) →
      (∀ c ∈ blanks, isSpace c = true) →
      Listed depth (blanks ++ (quote name ++ ':' :: (spacing.colon ++
        (printAt spacing level v ++ (printMembers spacing level members ++
          (closing ++ '\x7d' :: rest)))))) ((name, v) :: members) rest := by
  induction members with
  | nil =>
      intro name v blanks reads before
      have read := reads (name, v) List.mem_cons_self spacing.colon (closing ++ '\x7d' :: rest)
        blank.colon (endsNumeral_append closes (by decide) rest)
      have brace : skipSpace (closing ++ '\x7d' :: rest) = '\x7d' :: rest := by
        rw [skipSpace_append closes]
        exact skipSpace_cons (by decide) rest
      exact .last (memberName_quote before name _) read brace
  | cons member members ih =>
      obtain ⟨name', v'⟩ := member
      intro name v blanks reads before
      rw [printMembers_cons_append]
      have read := fun tail => reads (name, v) List.mem_cons_self spacing.colon (',' :: tail)
        blank.colon (.cons (by decide))
      have others := ih name' v' (spacing.item level)
        (fun member mem => reads member (List.mem_cons_of_mem _ mem)) (blank.item level)
      exact .more (memberName_quote before name _) (read _) (skipSpace_cons (by decide) _) others

end Printed

theorem afterSpace_gives {α : Type} {go : (c : Char) → (rest : List Char) → Reading α (c :: rest)}
    {text rest next : List Char} {c : Char} {v : α} (first : skipSpace text = c :: rest)
    (gives : (go c rest).Gives v next) : (afterSpace go text).Gives v next := by
  have left := length_cons_le_of_skipSpace first
  obtain ⟨shorter, read⟩ := gives
  refine ⟨Nat.lt_of_lt_of_le shorter left, ?_⟩
  unfold afterSpace
  split
  · next none => cases first.symm.trans none
  · next c' rest' found =>
      cases first.symm.trans found
      rw [read]
      rfl

theorem readsAs_of_valueFrom {depth : Nat} {text : List Char} {v : Json} {c : Char}
    {tail : List Char → List Char} (written : ∀ rest, text ++ rest = c :: tail rest)
    (starts : StartsValue c)
    (gives : ∀ rest, EndsNumeral rest →
      (valueFrom .strict (inner? .strict depth) c (tail rest)).Gives v rest) :
    (value .strict depth).ReadsAs text v := by
  intro blanks rest blank ends
  have first : skipSpace (blanks ++ (text ++ rest)) = c :: tail rest := by
    rw [skipSpace_append blank, written]
    exact skipSpace_cons starts.isSpace_eq_false _
  rw [value_eq]
  exact afterSpace_gives first (gives rest ends)

section Dispatch
variable (rules : Rules) (inner : Option (Reader Json)) (rest : List Char)

theorem valueFrom_null : valueFrom rules inner 'n' rest = keyword .null "ull" 'n' rest := by
  unfold valueFrom
  rw [if_pos rfl]

theorem valueFrom_true : valueFrom rules inner 't' rest = keyword (.bool true) "rue" 't' rest := by
  unfold valueFrom
  rw [if_neg (by decide), if_pos rfl]

theorem valueFrom_false :
    valueFrom rules inner 'f' rest = keyword (.bool false) "alse" 'f' rest := by
  unfold valueFrom
  rw [if_neg (by decide), if_neg (by decide), if_pos rfl]

theorem valueFrom_quote :
    valueFrom rules inner '"' rest =
      ((quoted rules.unicode rest).map .string).within (length_le_cons '"' rest) := by
  unfold valueFrom
  rw [if_neg (by decide), if_neg (by decide), if_neg (by decide), if_pos rfl]

theorem ne_of_number {c : Char} (sign : c = '-' ∨ c.isDigit = true) :
    c ≠ 'n' ∧ c ≠ 't' ∧ c ≠ 'f' ∧ c ≠ '"' := by
  refine ⟨?_, ?_, ?_, ?_⟩ <;> rintro rfl <;> revert sign <;> decide

theorem valueFrom_number {c : Char} (sign : c = '-' ∨ c.isDigit = true) :
    valueFrom rules inner c rest = (rules.number (c :: rest)).map .number := by
  obtain ⟨noNull, noTrue, noFalse, noQuote⟩ := ne_of_number sign
  unfold valueFrom
  rw [if_neg noNull, if_neg noTrue, if_neg noFalse, if_neg noQuote, if_pos sign]

theorem valueFrom_bracket (reader : Reader Json) :
    valueFrom rules (some reader) '[' rest =
      (arrayTail reader rest).within (length_le_cons '[' rest) := by
  unfold valueFrom
  rw [if_neg (by decide), if_neg (by decide), if_neg (by decide), if_neg (by decide),
    if_neg (by decide), if_pos rfl]

theorem valueFrom_brace (reader : Reader Json) :
    valueFrom rules (some reader) '\x7b' rest =
      (objectTail rules.unicode reader rest).within (length_le_cons '\x7b' rest) := by
  unfold valueFrom
  rw [if_neg (by decide), if_neg (by decide), if_neg (by decide), if_neg (by decide),
    if_neg (by decide), if_neg (by decide), if_pos rfl]

end Dispatch

section Values
variable {spacing : Spacing} {depth : Nat}

theorem readsAs_keyword {v : Json} {c : Char} {word letters : String}
    (written : word.toList = c :: letters.toList) (starts : StartsValue c)
    (reads : ∀ inner rest, valueFrom .strict inner c rest = keyword v letters c rest) :
    (value .strict depth).ReadsAs word.toList v := by
  have continued : ∀ rest, word.toList ++ rest = c :: (letters.toList ++ rest) := by
    intro rest
    rw [written, List.cons_append]
  refine readsAs_of_valueFrom continued starts ?_
  intro rest _
  rw [reads]
  exact keyword_append v letters c rest

theorem readsAs_string (s : String) : (value .strict depth).ReadsAs (quote s) (.string s) := by
  refine readsAs_of_valueFrom (quote_append s) (.inr (by decide)) ?_
  intro rest _
  rw [valueFrom_quote]
  exact ((quoted_escape s rest).map Json.string).within _

theorem readsAs_integer {i : Int} (range : Number.InRange (.whole i)) :
    (value .strict depth).ReadsAs (integer i) (.number (.whole i)) := by
  obtain ⟨c, tail, written, sign⟩ := integer_head i
  have continued : ∀ rest, integer i ++ rest = c :: (tail ++ rest) := by
    intro rest
    rw [written, List.cons_append]
  refine readsAs_of_valueFrom continued (.of_number sign) ?_
  intro rest ends
  rw [valueFrom_number _ _ _ sign, ← continued]
  exact (strictNumber_integer range ends).map Json.number

theorem arrayTail_empty {reader : Reader Json} {text after : List Char}
    (bracket : skipSpace text = ']' :: after) :
    (arrayTail reader text).Gives (.array []) after := by
  refine ⟨length_le_of_skipSpace bracket, ?_⟩
  unfold arrayTail
  split
  · next after' found =>
      cases bracket.symm.trans found
      rfl
  · next other => exact absurd bracket (other after)

theorem arrayTail_items {reader : Reader Json} {text : List Char}
    (other : ∀ after, skipSpace text ≠ ']' :: after) :
    arrayTail reader text = itemsOnto reader [] text (length_le_self text) := by
  unfold arrayTail
  split
  · next after found => exact absurd found (other after)
  · rfl

theorem objectTail_empty {unicode : Reader Char} {reader : Reader Json} {text after : List Char}
    (brace : skipSpace text = '\x7d' :: after) :
    (objectTail unicode reader text).Gives (.object []) after := by
  refine ⟨length_le_of_skipSpace brace, ?_⟩
  unfold objectTail
  split
  · next after' found =>
      cases brace.symm.trans found
      rfl
  · next other => exact absurd brace (other after)

theorem objectTail_members {unicode : Reader Char} {reader : Reader Json} {text : List Char}
    (other : ∀ after, skipSpace text ≠ '\x7d' :: after) :
    objectTail unicode reader text = membersOnto unicode reader [] text (length_le_self text) := by
  unfold objectTail
  split
  · next after found => exact absurd found (other after)
  · rfl

theorem readsAs_array (blank : spacing.Blank) (level : Nat) {items : List Json}
    (inner : ∀ item ∈ items,
      (value .strict depth).ReadsAs (printAt spacing (level + 1) item) item) :
    (value .strict (depth + 1)).ReadsAs (printAt spacing level (.array items)) (.array items) := by
  cases items with
  | nil =>
      have written : ∀ rest, "[]".toList ++ rest = '[' :: ']' :: rest := fun _ => rfl
      refine readsAs_of_valueFrom written (.inr (by decide)) ?_
      intro rest _
      rw [inner?, valueFrom_bracket]
      exact (arrayTail_empty (skipSpace_cons (by decide) rest)).within _
  | cons item items =>
      have written : ∀ rest, printAt spacing level (.array (item :: items)) ++ rest =
          '[' :: (spacing.item (level + 1) ++ (printAt spacing (level + 1) item ++
            (printItems spacing (level + 1) items ++ (spacing.close level ++ ']' :: rest)))) := by
        intro rest
        simp [printAt]
      refine readsAs_of_valueFrom written (.inr (by decide)) ?_
      intro rest _
      obtain ⟨c, tail, first, starts⟩ := printAt_head spacing (level + 1) item
      have other : ∀ after, skipSpace (spacing.item (level + 1) ++
          (printAt spacing (level + 1) item ++ (printItems spacing (level + 1) items ++
            (spacing.close level ++ ']' :: rest)))) ≠ ']' :: after := by
        intro after bracket
        rw [skipSpace_append (blank.item _), first, List.cons_append,
          skipSpace_cons starts.isSpace_eq_false] at bracket
        exact starts.ne.1 (List.cons.inj bracket).1
      rw [inner?, valueFrom_bracket, arrayTail_items other]
      exact (itemsOnto_printItems blank (level + 1) (blank.close level) rest items item []
        (spacing.item (level + 1)) inner (blank.item _) _).within _

/-- An object reads back with its members in their places, the last of one name. -/
theorem readsAs_object (blank : spacing.Blank) (level : Nat) {members : List (String × Json)}
    (inner : ∀ member ∈ members,
      (value .strict depth).ReadsAs (printAt spacing (level + 1) member.2) member.2) :
    (value .strict (depth + 1)).ReadsAs (printAt spacing level (.object members))
      (ofMembersReversed members.reverse) := by
  cases members with
  | nil =>
      have written : ∀ rest, ['\x7b', '\x7d'] ++ rest = '\x7b' :: '\x7d' :: rest := fun _ => rfl
      refine readsAs_of_valueFrom written (.inr (by decide)) ?_
      intro rest _
      rw [inner?, valueFrom_brace]
      exact (objectTail_empty (skipSpace_cons (by decide) rest)).within _
  | cons member members =>
      obtain ⟨name, v⟩ := member
      refine readsAs_of_valueFrom (printAt_object_append level name v members) (.inr (by decide)) ?_
      intro rest _
      have other : ∀ after, skipSpace (spacing.item (level + 1) ++ (quote name ++ ':' ::
          (spacing.colon ++ (printAt spacing (level + 1) v ++
            (printMembers spacing (level + 1) members ++
              (spacing.close level ++ '\x7d' :: rest)))))) ≠ '\x7d' :: after := by
        intro after brace
        rw [skipSpace_append (blank.item _), quote_append, skipSpace_cons (by decide)] at brace
        exact absurd (List.cons.inj brace).1 (by decide)
      rw [inner?, valueFrom_brace, objectTail_members other]
      have listed := listed_printMembers blank (level + 1) (blank.close level) rest members name v
        (spacing.item (level + 1)) inner (blank.item _)
      have gives := listed.membersOnto [] (length_le_self _)
      rw [List.append_nil] at gives
      exact gives.within _

/-- A written value reads back, with any blanks between its lexemes. -/
theorem readsAs_printAt (blank : spacing.Blank) {v : Json} (orderly : Orderly depth v) :
    Integral v → ∀ level, (value .strict depth).ReadsAs (printAt spacing level v) v := by
  induction orderly with
  | null => exact fun _ _ => readsAs_keyword rfl (.inr (by decide)) (valueFrom_null .strict)
  | bool b =>
      intro _ level
      cases b with
      | false => exact readsAs_keyword rfl (.inr (by decide)) (valueFrom_false .strict)
      | true => exact readsAs_keyword rfl (.inr (by decide)) (valueFrom_true .strict)
  | number range =>
      intro integral level
      cases integral with
      | number i => exact readsAs_integer range
  | string s => exact fun _ _ => readsAs_string s
  | array inner ih =>
      intro integral level
      cases integral with
      | array integral =>
          exact readsAs_array blank level fun item mem =>
            ih item mem (integral item mem) (level + 1)
  | object ascending inner ih =>
      intro integral level
      cases integral with
      | object integral =>
          have reads := readsAs_object blank level fun member mem =>
            ih member mem (integral member mem) (level + 1)
          rwa [ofMembersReversed_reverse ascending] at reads

end Values

theorem read_of_readsAs {text : List Char} {v : Json}
    (reads : (value .strict deepest).ReadsAs text v) : read text = .ok v := by
  have gives := reads [] [] (by simp) .nil
  rw [List.nil_append, List.append_nil] at gives
  obtain ⟨shorter, whole⟩ := gives
  unfold read
  rw [whole]
  rfl

end ProfileClient.Json
