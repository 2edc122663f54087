import ProfileClient.Proofs.Json.Listed
/-!
Values passed over. The walk that checks no more than the grammar leaves what the strict walk
leaves, wherever that one succeeds, and no nesting is too deep for it.
-/
namespace ProfileClient.Json

/-- On texts of at most `bound` characters the loose reader leaves what the strict one leaves. -/
def Reader.Covers {α β : Type} (loose : Reader α) (strict : Reader β) (bound : Nat) : Prop :=
  ∀ text v rest, text.length ≤ bound → (strict text).Gives v rest → ∃ w, (loose text).Gives w rest

/-- The character of an escape takes four digits or, as a pair, four and another escape. -/
theorem hexQuads_of_scalar {text after : List Char} {c : Char}
    (gives : (scalar text).Gives c after) :
    ∃ unit next, (hexQuad text).Gives unit next ∧
      (next = after ∨ ∃ tail low, next = '\\' :: 'u' :: tail ∧ (hexQuad tail).Gives low after) := by
  unfold scalar at gives
  split at gives
  · exact absurd gives not_gives_error
  · next unit next first =>
      refine ⟨unit, next.1, ⟨next.2, first⟩, ?_⟩
      split at gives
      · exact absurd gives not_gives_error
      · split at gives
        · split at gives
          · exact absurd gives not_gives_error
          · exact absurd gives not_gives_error
          · next tail second =>
              split at gives
              · exact absurd gives not_gives_error
              · next low left got =>
                  split at gives
                  · obtain ⟨-, rfl⟩ := gives_ok_iff.mp gives
                    exact .inr ⟨tail, low, second, left.2, got⟩
                  · exact absurd gives not_gives_error
          · exact absurd gives not_gives_error
        · exact .inl (gives_ok_iff.mp gives).2

theorem escaped_cases {unicode : Reader Char} {text after : List Char} {c : Char}
    (gives : (escaped unicode text).Gives c after) :
    (∃ tail, text = 'u' :: tail ∧ (unicode tail).Gives c after) ∨
      ∃ letter, text = letter :: after ∧ letter ≠ 'u' ∧ shortEscape? letter = some c := by
  cases text with
  | nil => exact absurd gives not_gives_error
  | cons letter tail =>
      by_cases isNumber : letter = 'u'
      · subst isNumber
        rw [escaped, if_pos rfl] at gives
        exact .inl ⟨tail, rfl, gives.of_within⟩
      · rw [escaped, if_neg isNumber] at gives
        split at gives
        · next stands =>
            obtain ⟨rfl, rfl⟩ := gives_ok_iff.mp gives
            exact .inr ⟨letter, rfl, isNumber, stands⟩
        · exact absurd gives not_gives_error

theorem escaped_anyUnit {text rest : List Char} {unit : Nat}
    (gives : (hexQuad text).Gives unit rest) :
    (escaped anyUnit ('u' :: text)).Gives (Char.ofNat unit) rest := by
  rw [escaped, if_pos rfl, anyUnit]
  exact (gives.map Char.ofNat).within _

theorem exists_quotedOnto_anyUnit {origin text rest done : List Char} {s : String}
    {h : text.length ≤ origin.length} (gives : (quotedOnto scalar done text h).Gives s rest) :
    ∀ (done' : List Char) (h' : text.length ≤ origin.length),
      ∃ s', (quotedOnto anyUnit done' text h').Gives s' rest := by
  fun_induction quotedOnto scalar done text h with
  | case1 => exact absurd gives not_gives_error
  | case2 done tail h =>
      intro done' h'
      obtain ⟨-, rfl⟩ := gives_ok_iff.mp gives
      refine ⟨String.ofList done'.reverse, ?_⟩
      rw [quotedOnto, if_pos rfl]
      exact gives_ok_iff.mpr ⟨rfl, rfl⟩
  | case3 => exact absurd gives not_gives_error
  | case4 done tail c after got h _ _ ih =>
      intro done' h'
      obtain ⟨after, shorter⟩ := after
      have within : after.length ≤ origin.length := by
        rw [List.length_cons] at h'
        omega
      rcases escaped_cases ⟨shorter, got⟩ with
        ⟨digits, rfl, single⟩ | ⟨letter, rfl, noNumber, stands⟩
      · obtain ⟨unit, next, first, rfl | ⟨digits', low, rfl, second⟩⟩ := hexQuads_of_scalar single
        · obtain ⟨s', left⟩ := ih gives (Char.ofNat unit :: done') within
          exact ⟨s', quotedOnto_escaped (escaped_anyUnit first) (fun _ => left) h'⟩
        · obtain ⟨s', left⟩ := ih gives (Char.ofNat low :: Char.ofNat unit :: done') within
          exact ⟨s', quotedOnto_escaped (escaped_anyUnit first)
            (quotedOnto_escaped (escaped_anyUnit second) fun _ => left) h'⟩
      · obtain ⟨s', left⟩ := ih gives (c :: done') within
        exact ⟨s', quotedOnto_escaped (escaped_letter anyUnit noNumber stands _) (fun _ => left) h'⟩
  | case5 => exact absurd gives not_gives_error
  | case6 done c tail h noQuote noBackslash printable _ ih =>
      intro done' h'
      obtain ⟨s', left⟩ := ih gives (c :: done') (Nat.le_of_succ_le h')
      exact ⟨s', quotedOnto_plain noQuote noBackslash printable (fun _ => left) h'⟩

theorem quoted_covers (bound : Nat) : Reader.Covers (quoted anyUnit) (quoted scalar) bound :=
  fun _ _ _ _ gives => exists_quotedOnto_anyUnit gives [] _

theorem anyNumber_covers (bound : Nat) : Reader.Covers anyNumber strictNumber bound := by
  intro text n rest _ gives
  unfold strictNumber at gives
  split at gives
  · exact absurd gives not_gives_error
  · next got =>
      split at gives
      · obtain ⟨-, left⟩ := gives_ok_iff.mp gives
        refine ⟨.whole 0, ?_⟩
        rw [anyNumber, got]
        exact gives_ok_iff.mpr ⟨rfl, left⟩
      · exact absurd gives not_gives_error

theorem memberName_covers (bound : Nat) :
    Reader.Covers (memberName anyUnit) (memberName scalar) bound := by
  intro text name rest _ named
  obtain ⟨tail, after, first, quotes, colon⟩ := memberName_gives_iff.mp named
  obtain ⟨name', quotes'⟩ := quoted_covers tail.length tail name after (Nat.le_refl _) quotes
  exact ⟨name', memberName_gives_iff.mpr ⟨tail, after, first, quotes', colon⟩⟩

section Lists
variable {loose strict : Reader Json} {bound : Nat}

theorem Reader.Covers.itemsOnto (covers : loose.Covers strict bound) {origin text rest : List Char}
    {done : List Json} {v : Json} {h : text.length ≤ origin.length} (short : text.length ≤ bound)
    (gives : (itemsOnto strict done text h).Gives v rest) :
    ∀ (done' : List Json) (h' : text.length ≤ origin.length),
      ∃ w, (itemsOnto loose done' text h').Gives w rest := by
  fun_induction Json.itemsOnto strict done text h with
  | case1 => exact absurd gives not_gives_error
  | case2 => exact absurd gives not_gives_error
  | case3 done text h item left got after bracket =>
      intro done' h'
      obtain ⟨-, rfl⟩ := gives_ok_iff.mp gives
      obtain ⟨item', read⟩ := covers text item left.1 short ⟨left.2, got⟩
      exact ⟨_, itemsOnto_last read bracket h'⟩
  | case4 done text h item left got after comma shorter _ ih =>
      intro done' h'
      obtain ⟨item', read⟩ := covers text item left.1 short ⟨left.2, got⟩
      obtain ⟨w, tail⟩ := ih (by omega) gives (item' :: done') (by omega)
      exact ⟨w, itemsOnto_next read comma (fun _ => tail) h'⟩
  | case5 => exact absurd gives not_gives_error

theorem Reader.Covers.membersOnto (covers : loose.Covers strict bound)
    {origin text rest : List Char} {done : List (String × Json)} {v : Json}
    {h : text.length ≤ origin.length} (short : text.length ≤ bound)
    (gives : (membersOnto scalar strict done text h).Gives v rest) :
    ∀ (done' : List (String × Json)) (h' : text.length ≤ origin.length),
      ∃ w, (membersOnto anyUnit loose done' text h').Gives w rest := by
  fun_induction Json.membersOnto scalar strict done text h with
  | case1 => exact absurd gives not_gives_error
  | case2 => exact absurd gives not_gives_error
  | case3 => exact absurd gives not_gives_error
  | case4 done text h name start named item left got after brace =>
      intro done' h'
      have shorter := start.2
      obtain ⟨-, rfl⟩ := gives_ok_iff.mp gives
      obtain ⟨name', named'⟩ := memberName_covers bound text name start.1 short ⟨start.2, named⟩
      obtain ⟨item', read⟩ := covers start.1 item left.1 (by omega) ⟨left.2, got⟩
      exact ⟨_, membersOnto_last named' read brace h'⟩
  | case5 done text h name start named item left got after comma shorter _ ih =>
      intro done' h'
      have shorterName := start.2
      obtain ⟨name', named'⟩ := memberName_covers bound text name start.1 short ⟨start.2, named⟩
      obtain ⟨item', read⟩ := covers start.1 item left.1 (by omega) ⟨left.2, got⟩
      obtain ⟨w, tail⟩ := ih (by omega) gives ((name', item') :: done') (by omega)
      exact ⟨w, membersOnto_next named' read comma (fun _ => tail) h'⟩
  | case6 => exact absurd gives not_gives_error

theorem Reader.Covers.arrayTail (covers : loose.Covers strict bound) :
    Reader.Covers (arrayTail loose) (arrayTail strict) bound := by
  intro text v rest short gives
  by_cases empty : ∃ after, skipSpace text = ']' :: after
  · obtain ⟨after, bracket⟩ := empty
    obtain ⟨-, rfl⟩ := gives.unique (arrayTail_empty bracket)
    exact ⟨.array [], arrayTail_empty bracket⟩
  · have items : ∀ after, skipSpace text ≠ ']' :: after :=
      fun after bracket => empty ⟨after, bracket⟩
    rw [arrayTail_items items] at gives ⊢
    exact covers.itemsOnto short gives [] _

theorem Reader.Covers.objectTail (covers : loose.Covers strict bound) :
    Reader.Covers (objectTail anyUnit loose) (objectTail scalar strict) bound := by
  intro text v rest short gives
  by_cases empty : ∃ after, skipSpace text = '\x7d' :: after
  · obtain ⟨after, brace⟩ := empty
    obtain ⟨-, rfl⟩ := gives.unique (objectTail_empty brace)
    exact ⟨.object [], objectTail_empty brace⟩
  · have members : ∀ after, skipSpace text ≠ '\x7d' :: after :=
      fun after brace => empty ⟨after, brace⟩
    rw [objectTail_members members] at gives ⊢
    exact covers.membersOnto short gives [] _

end Lists

theorem exists_valueFrom_skipping {depth levels : Nat} {c : Char} {text rest : List Char} {v : Json}
    (short : (c :: text).length ≤ levels)
    (inner : ∀ level, depth = level + 1 →
      Reader.Covers (skip (levels - 1)) (value .strict level) (levels - 1))
    (gives : (valueFrom .strict (inner? .strict depth) c text).Gives v rest) :
    ∃ w, (valueFrom .skipping (inner? .skipping levels) c text).Gives w rest := by
  cases opened_of_valueFrom gives with
  | null first letters =>
      subst first
      rw [valueFrom_null]
      exact ⟨_, ((keyword_gives_iff _).mp letters).2⟩
  | true first letters =>
      subst first
      rw [valueFrom_true]
      exact ⟨_, ((keyword_gives_iff _).mp letters).2⟩
  | false first letters =>
      subst first
      rw [valueFrom_false]
      exact ⟨_, ((keyword_gives_iff _).mp letters).2⟩
  | string first quotes =>
      subst first
      obtain ⟨s, quotes'⟩ := quoted_covers text.length text _ rest (Nat.le_refl _) quotes
      rw [valueFrom_quote]
      exact ⟨.string s, (quotes'.map Json.string).within _⟩
  | number first numeral =>
      obtain ⟨n, numeral'⟩ := anyNumber_covers levels (c :: text) _ rest short numeral
      rw [valueFrom_number _ _ _ first]
      exact ⟨.number n, numeral'.map Json.number⟩
  | array first =>
      subst first
      cases depth with
      | zero => exact absurd gives not_gives_error
      | succ level =>
          rw [inner?, valueFrom_bracket] at gives
          obtain ⟨below, rfl⟩ := Nat.exists_eq_succ_of_ne_zero (Nat.ne_zero_of_lt short)
          have covers := (inner level rfl).arrayTail
          obtain ⟨w, tail⟩ := covers text _ rest (Nat.le_of_succ_le_succ short) gives.of_within
          rw [inner?, valueFrom_bracket]
          exact ⟨w, tail.within _⟩
  | object first =>
      subst first
      cases depth with
      | zero => exact absurd gives not_gives_error
      | succ level =>
          rw [inner?, valueFrom_brace] at gives
          obtain ⟨below, rfl⟩ := Nat.exists_eq_succ_of_ne_zero (Nat.ne_zero_of_lt short)
          have covers := (inner level rfl).objectTail
          obtain ⟨w, tail⟩ := covers text _ rest (Nat.le_of_succ_le_succ short) gives.of_within
          rw [inner?, valueFrom_brace]
          exact ⟨w, tail.within _⟩

/-- What the strict walk reads, the walk that passes over values passes over, if it may go as deep
as the text is long. -/
theorem skip_covers (depth : Nat) :
    ∀ bound, Reader.Covers (skip bound) (value .strict depth) bound := by
  induction depth using Nat.strongRecOn with
  | ind depth ih =>
      intro bound text v rest short gives
      rw [value_eq] at gives
      obtain ⟨c, tail, first, gives⟩ := gives.exists_of_afterSpace
      have shorter := length_cons_le_of_skipSpace first
      have inner : ∀ level, depth = level + 1 →
          Reader.Covers (skip (bound - 1)) (value .strict level) (bound - 1) := by
        rintro level rfl
        exact ih level (Nat.lt_succ_self level) (bound - 1)
      obtain ⟨w, gives'⟩ := exists_valueFrom_skipping (by omega) inner gives
      rw [skip, value_eq]
      exact ⟨w, afterSpace_gives first gives'⟩

end ProfileClient.Json
