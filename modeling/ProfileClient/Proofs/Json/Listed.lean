import ProfileClient.Proofs.Json.RoundTrip
/-!
The members that the text of an object lists, in their order and each name as often as it stands
there. The value of the text keeps one member for each name; these are all of them.
-/
namespace ProfileClient.Json

/-- The value whose first character is `c`, where the text after `c` completes it and leaves the
rest. Of arrays and objects it only says that they are some. -/
inductive Opened (c : Char) (text rest : List Char) : Json → Prop
  | null (first : c = 'n') (letters : (keyword () "ull" c text).Gives () rest) :
    Opened c text rest .null
  | true (first : c = 't') (letters : (keyword () "rue" c text).Gives () rest) :
    Opened c text rest (.bool true)
  | false (first : c = 'f') (letters : (keyword () "alse" c text).Gives () rest) :
    Opened c text rest (.bool false)
  | string {s : String} (first : c = '"') (quotes : (quoted scalar text).Gives s rest) :
    Opened c text rest (.string s)
  | number {n : Number} (first : c = '-' ∨ c.isDigit = true)
    (numeral : (strictNumber (c :: text)).Gives n rest) : Opened c text rest (.number n)
  | array {items : List Json} (first : c = '[') : Opened c text rest (.array items)
  | object {members : List (String × Json)} (first : c = '\x7b') :
    Opened c text rest (.object members)

section Opened
variable {reader : Reader Json} {unicode : Reader Char} {origin text : List Char} {v : Json}

theorem exists_items_of_itemsOnto {done : List Json} {h : text.length ≤ origin.length}
    {rest : Rest origin} (read : itemsOnto reader done text h = .ok (v, rest)) :
    ∃ items, v = .array items := by
  fun_induction itemsOnto reader done text h with
  | case1 => cases read
  | case2 => cases read
  | case3 =>
      cases read
      exact ⟨_, rfl⟩
  | case4 _ _ _ _ _ _ _ _ _ _ ih => exact ih read
  | case5 => cases read

theorem exists_members_of_membersOnto {done : List (String × Json)}
    {h : text.length ≤ origin.length} {rest : Rest origin}
    (read : membersOnto unicode reader done text h = .ok (v, rest)) :
    ∃ members, v = .object members := by
  fun_induction membersOnto unicode reader done text h with
  | case1 => cases read
  | case2 => cases read
  | case3 => cases read
  | case4 =>
      cases read
      exact ⟨_, rfl⟩
  | case5 _ _ _ _ _ _ _ _ _ _ _ _ _ ih => exact ih read
  | case6 => cases read

theorem exists_items_of_arrayTail {rest : Rest text}
    (read : arrayTail reader text = .ok (v, rest)) : ∃ items, v = .array items := by
  unfold arrayTail at read
  split at read
  · cases read
    exact ⟨[], rfl⟩
  · exact exists_items_of_itemsOnto read

theorem exists_members_of_objectTail {rest : Rest text}
    (read : objectTail unicode reader text = .ok (v, rest)) : ∃ members, v = .object members := by
  unfold objectTail at read
  split at read
  · cases read
    exact ⟨[], rfl⟩
  · exact exists_members_of_membersOnto read

theorem opened_of_valueFrom {inner : Option (Reader Json)} {c : Char} {text rest : List Char}
    (gives : (valueFrom .strict inner c text).Gives v rest) : Opened c text rest v := by
  unfold valueFrom at gives
  split at gives
  · next first =>
      obtain ⟨rfl, letters⟩ := (keyword_gives_iff ()).mp gives
      exact .null first letters
  split at gives
  · next first =>
      obtain ⟨rfl, letters⟩ := (keyword_gives_iff ()).mp gives
      exact .true first letters
  split at gives
  · next first =>
      obtain ⟨rfl, letters⟩ := (keyword_gives_iff ()).mp gives
      exact .false first letters
  split at gives
  · next first =>
      obtain ⟨s, rfl, quotes⟩ := gives.of_within.exists_of_map
      exact .string first quotes
  split at gives
  · next first =>
      obtain ⟨n, rfl, numeral⟩ := gives.exists_of_map
      exact .number first numeral
  split at gives
  · next first =>
      cases inner with
      | none =>
          obtain ⟨_, read⟩ := gives
          cases read
      | some reader =>
          obtain ⟨_, read⟩ := gives.of_within
          obtain ⟨items, rfl⟩ := exists_items_of_arrayTail read
          exact .array first
  split at gives
  · next first =>
      cases inner with
      | none =>
          obtain ⟨_, read⟩ := gives
          cases read
      | some reader =>
          obtain ⟨_, read⟩ := gives.of_within
          obtain ⟨members, rfl⟩ := exists_members_of_objectTail read
          exact .object first
  · obtain ⟨_, read⟩ := gives
    cases read

end Opened

/-- A value that is read is opened by the first character after any blanks. -/
theorem exists_opened {depth : Nat} {text rest : List Char} {v : Json}
    (gives : (value .strict depth text).Gives v rest) :
    ∃ c tail, skipSpace text = c :: tail ∧ Opened c tail rest v := by
  rw [value_eq] at gives
  obtain ⟨c, tail, first, gives⟩ := gives.exists_of_afterSpace
  exact ⟨c, tail, first, opened_of_valueFrom gives⟩

/-- The whole text is an object that lists these members. -/
inductive Lists (text : List Char) : List (String × Json) → Prop
  | none {rest after : List Char} (brace : skipSpace text = '\x7b' :: rest)
    (closed : skipSpace rest = '\x7d' :: after) (ended : skipSpace after = []) : Lists text []
  | some {rest after : List Char} {members : List (String × Json)}
    (brace : skipSpace text = '\x7b' :: rest) (listed : Listed (deepest - 1) rest members after)
    (ended : skipSpace after = []) : Lists text members

theorem Listed.exists_quote {depth : Nat} {text rest : List Char} {members : List (String × Json)}
    (listed : Listed depth text members rest) : ∃ tail, skipSpace text = '"' :: tail := by
  cases listed with
  | last named =>
      obtain ⟨tail, _, first, -⟩ := memberName_gives_iff.mp named
      exact ⟨tail, first⟩
  | more named =>
      obtain ⟨tail, _, first, -⟩ := memberName_gives_iff.mp named
      exact ⟨tail, first⟩

theorem Listed.unique {depth : Nat} {text rest : List Char} {members : List (String × Json)}
    (listed : Listed depth text members rest) {members' : List (String × Json)} {rest' : List Char}
    (listed' : Listed depth text members' rest') : members = members' ∧ rest = rest' := by
  induction listed generalizing members' rest' with
  | last named valued brace =>
      cases listed' with
      | last named' valued' brace' =>
          obtain ⟨rfl, rfl⟩ := named.unique named'
          obtain ⟨rfl, rfl⟩ := valued.unique valued'
          cases brace.symm.trans brace'
          exact ⟨rfl, rfl⟩
      | more named' valued' comma' others' =>
          obtain ⟨rfl, rfl⟩ := named.unique named'
          obtain ⟨rfl, rfl⟩ := valued.unique valued'
          cases brace.symm.trans comma'
  | more named valued comma others ih =>
      cases listed' with
      | last named' valued' brace' =>
          obtain ⟨rfl, rfl⟩ := named.unique named'
          obtain ⟨rfl, rfl⟩ := valued.unique valued'
          cases comma.symm.trans brace'
      | more named' valued' comma' others' =>
          obtain ⟨rfl, rfl⟩ := named.unique named'
          obtain ⟨rfl, rfl⟩ := valued.unique valued'
          cases comma.symm.trans comma'
          obtain ⟨rfl, rfl⟩ := ih others'
          exact ⟨rfl, rfl⟩

theorem Listed.orderly {depth : Nat} {text rest : List Char} {members : List (String × Json)}
    (listed : Listed depth text members rest) : ∀ member ∈ members, Orderly depth member.2 := by
  induction listed with
  | last _ valued =>
      obtain ⟨_, read⟩ := valued
      intro member mem
      cases List.mem_singleton.mp mem
      exact value_keeps depth _ _ _ read
  | more _ valued _ _ ih =>
      obtain ⟨_, read⟩ := valued
      intro member mem
      rcases List.mem_cons.mp mem with rfl | later
      · exact value_keeps depth _ _ _ read
      · exact ih member later

/-- A text lists one sequence of members. -/
theorem Lists.unique {text : List Char} {members members' : List (String × Json)}
    (lists : Lists text members) (lists' : Lists text members') : members = members' := by
  cases lists with
  | none brace closed =>
      cases lists' with
      | none => rfl
      | some brace' listed =>
          cases brace.symm.trans brace'
          obtain ⟨tail, quote⟩ := listed.exists_quote
          cases closed.symm.trans quote
  | some brace listed =>
      cases lists' with
      | none brace' closed =>
          cases brace.symm.trans brace'
          obtain ⟨tail, quote⟩ := listed.exists_quote
          cases closed.symm.trans quote
      | some brace' listed' =>
          cases brace.symm.trans brace'
          exact (listed.unique listed').1

theorem exists_listed_of_membersOnto {depth : Nat} {origin text : List Char}
    {done : List (String × Json)} {h : text.length ≤ origin.length} {v : Json} {rest : Rest origin}
    (read : membersOnto scalar (value .strict depth) done text h = .ok (v, rest)) :
    ∃ members, Listed depth text members rest.1 ∧
      v = ofMembersReversed (members.reverse ++ done) := by
  fun_induction membersOnto scalar (value .strict depth) done text h with
  | case1 => cases read
  | case2 => cases read
  | case3 => cases read
  | case4 done text h name start named item rest' valued after brace =>
      cases read
      exact ⟨[(name, item)], .last ⟨start.2, named⟩ ⟨rest'.2, valued⟩ brace, rfl⟩
  | case5 done text h name start named item rest' valued after comma _ _ ih =>
      obtain ⟨members, listed, rfl⟩ := ih read
      refine ⟨(name, item) :: members, .more ⟨start.2, named⟩ ⟨rest'.2, valued⟩ comma listed, ?_⟩
      rw [List.reverse_cons, List.append_assoc, List.singleton_append]
  | case6 => cases read

theorem Lists.orderly {text : List Char} {members : List (String × Json)}
    (lists : Lists text members) : ∀ member ∈ members, Orderly (deepest - 1) member.2 := by
  cases lists with
  | none => exact fun _ mem => nomatch mem
  | some _ listed => exact listed.orderly

/-- A text that reads as an object lists members, and the object holds them in their places, the
last of each name. -/
theorem exists_lists_of_read {text : List Char} {object : List (String × Json)}
    (read : Json.read text = .ok (.object object)) :
    ∃ members, Lists text members ∧ Json.object object = ofMembersReversed members.reverse := by
  unfold Json.read at read
  split at read
  · cases read
  · next v rest got =>
      split at read
      · next ended =>
          have ended : skipSpace rest.1 = [] := List.isEmpty_iff.mp ended
          cases read
          have gives : (value .strict deepest text).Gives (.object object) rest.1 := ⟨rest.2, got⟩
          rw [value_eq] at gives
          obtain ⟨c, tail, first, gives⟩ := gives.exists_of_afterSpace
          cases opened_of_valueFrom gives with
          | object brace =>
              subst brace
              have levels : inner? .strict deepest = some (value .strict (deepest - 1)) := rfl
              rw [levels, valueFrom_brace] at gives
              obtain ⟨_, read⟩ := gives.of_within
              unfold objectTail at read
              split at read
              · next after closed =>
                  cases read
                  exact ⟨[], .none first closed ended, rfl⟩
              · obtain ⟨members, listed, same⟩ := exists_listed_of_membersOnto read
                rw [List.append_nil] at same
                exact ⟨members, .some first listed ended, same⟩
      · cases read

/-- The text of an object lists the members it was written from, a repeated one as often. -/
theorem lists_printAt {spacing : Spacing} (blank : spacing.Blank) (level : Nat)
    {members : List (String × Json)}
    (inner : ∀ member ∈ members, (value .strict (deepest - 1)).ReadsAs
      (printAt spacing (level + 1) member.2) member.2) :
    Lists (printAt spacing level (.object members)) members := by
  cases members with
  | nil => exact .none (skipSpace_cons (by decide) _) (skipSpace_cons (by decide) _) rfl
  | cons member members =>
      obtain ⟨name, v⟩ := member
      rw [← List.append_nil (printAt ..), printAt_object_append]
      exact .some (skipSpace_cons (by decide) _) (listed_printMembers blank (level + 1)
        (blank.close level) [] members name v _ inner (blank.item _)) rfl

end ProfileClient.Json
