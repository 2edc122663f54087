import ProfileClient.Proofs.Json.Numeral
/-!
What readers give: values of limited depth whose whole numbers fit 64 bits and whose objects hold
each name once, in ascending order.
-/
namespace ProfileClient.Json

/-- A value of at most so many levels as a reader gives it: whole numbers fit 64 bits, and the
members of each object ascend by their names. -/
inductive Orderly : (depth : Nat) → Json → Prop
  | null {depth : Nat} : Orderly depth .null
  | bool {depth : Nat} (b : Bool) : Orderly depth (.bool b)
  | number {depth : Nat} {n : Number} (range : n.InRange) : Orderly depth (.number n)
  | string {depth : Nat} (s : String) : Orderly depth (.string s)
  | array {depth : Nat} {items : List Json} (inner : ∀ item ∈ items, Orderly depth item) :
    Orderly (depth + 1) (.array items)
  | object {depth : Nat} {members : List (String × Json)}
    (ascending : members.Pairwise (·.1 < ·.1))
    (inner : ∀ member ∈ members, Orderly depth member.2) : Orderly (depth + 1) (.object members)

section Members
variable {name : String} {v : Json} {members : List (String × Json)}

theorem insertNew_of_lt (least : ∀ member ∈ members, name < member.1) :
    insertNew name v members = (name, v) :: members := by
  cases members with
  | nil => rfl
  | cons member members => exact if_pos (least member List.mem_cons_self)

theorem mem_insertNew {member : String × Json} (mem : member ∈ insertNew name v members) :
    member = (name, v) ∨ member ∈ members := by
  induction members with
  | nil => exact .inl (List.mem_singleton.mp mem)
  | cons first members ih =>
      obtain ⟨name', v'⟩ := first
      unfold insertNew at mem
      split at mem
      · exact List.mem_cons.mp mem
      · split at mem
        · exact .inr mem
        · rcases List.mem_cons.mp mem with rfl | later
          · exact .inr List.mem_cons_self
          · rcases ih later with new | old
            · exact .inl new
            · exact .inr (List.mem_cons_of_mem _ old)

theorem insertNew_ascending (ascending : members.Pairwise (·.1 < ·.1)) :
    (insertNew name v members).Pairwise (·.1 < ·.1) := by
  induction members with
  | nil => exact List.pairwise_singleton ..
  | cons first members ih =>
      obtain ⟨name', v'⟩ := first
      obtain ⟨least, rest⟩ := List.pairwise_cons.mp ascending
      unfold insertNew
      split
      · next before =>
          refine List.pairwise_cons.mpr ⟨?_, ascending⟩
          intro member mem
          rcases List.mem_cons.mp mem with rfl | later
          · exact before
          · exact String.lt_trans before (least member later)
      · next notBefore =>
          split
          · exact ascending
          · next other =>
              have after : name' < name := by
                rcases String.le_total name name' with le | le
                · exact absurd (String.le_antisymm le (String.not_lt.mp notBefore)) other
                · exact String.not_le.mp fun ge => other (String.le_antisymm ge le)
              refine List.pairwise_cons.mpr ⟨?_, ih rest⟩
              intro member mem
              rcases mem_insertNew mem with rfl | old
              · exact after
              · exact least member old

theorem Orderly.ofMembersReversed {depth : Nat}
    (inner : ∀ member ∈ members, Orderly depth member.2) :
    Orderly (depth + 1) (Json.ofMembersReversed members) := by
  have keep : ∀ object : List (String × Json), object.Pairwise (·.1 < ·.1) →
      (∀ member ∈ object, Orderly depth member.2) →
      Orderly (depth + 1) (.object
        (members.foldl (fun object member => insertNew member.1 member.2 object) object)) := by
    induction members with
    | nil => exact fun object ascending => .object ascending
    | cons first members ih =>
        intro object ascending held
        have rest : ∀ member ∈ members, Orderly depth member.2 :=
          fun member mem => inner member (List.mem_cons_of_mem _ mem)
        refine ih rest _ (insertNew_ascending ascending) ?_
        intro member mem
        rcases mem_insertNew mem with rfl | old
        · exact inner first List.mem_cons_self
        · exact held member old
  exact keep [] .nil (by simp)

/-- Members that ascend are in their places. -/
theorem ofMembersReversed_reverse (ascending : members.Pairwise (·.1 < ·.1)) :
    Json.ofMembersReversed members.reverse = .object members := by
  rw [Json.ofMembersReversed, List.foldl_reverse]
  congr 1
  induction members with
  | nil => rfl
  | cons member members ih =>
      obtain ⟨least, ascending⟩ := List.pairwise_cons.mp ascending
      rw [List.foldr_cons, ih ascending]
      exact insertNew_of_lt least

/-- Where members ascend, a name stands for one value. -/
theorem find?_eq_some_iff_of_ascending (ascending : members.Pairwise (·.1 < ·.1)) :
    members.find? (·.1 == name) = some (name, v) ↔ (name, v) ∈ members := by
  constructor
  · exact List.mem_of_find?_eq_some
  · intro mem
    induction members with
    | nil => cases mem
    | cons first members ih =>
        obtain ⟨least, ascending⟩ := List.pairwise_cons.mp ascending
        rcases List.mem_cons.mp mem with rfl | later
        · simp
        · have before : first.1 < name := least (name, v) later
          have other : first.1 ≠ name := by
            intro same
            rw [same] at before
            exact String.lt_irrefl name before
          rw [List.find?_cons_of_neg (by simpa using other)]
          exact ih ascending later

end Members

/-- All that the reader gives is of at most so many levels. -/
def Reader.Keeps (reader : Reader Json) (depth : Nat) : Prop :=
  ∀ text v rest, reader text = .ok (v, rest) → Orderly depth v

section Readers
variable {reader : Reader Json} {depth : Nat}

theorem Reader.Keeps.itemsOnto (keeps : reader.Keeps depth) {origin text : List Char}
    {done : List Json} {h : text.length ≤ origin.length} {v : Json} {rest : Rest origin}
    (held : ∀ item ∈ done, Orderly depth item)
    (read : itemsOnto reader done text h = .ok (v, rest)) : Orderly (depth + 1) v := by
  fun_induction Json.itemsOnto reader done text h with
  | case1 => cases read
  | case2 => cases read
  | case3 done text h item rest' got after hs shorter =>
      cases read
      refine .array ?_
      intro member mem
      rcases List.mem_cons.mp (List.mem_reverse.mp mem) with rfl | old
      · exact keeps _ _ _ got
      · exact held _ old
  | case4 done text h item rest' got after hs shorter _ ih =>
      refine ih ?_ read
      intro member mem
      rcases List.mem_cons.mp mem with rfl | old
      · exact keeps _ _ _ got
      · exact held _ old
  | case5 => cases read

theorem Reader.Keeps.membersOnto (keeps : reader.Keeps depth) {unicode : Reader Char}
    {origin text : List Char} {done : List (String × Json)} {h : text.length ≤ origin.length}
    {v : Json} {rest : Rest origin} (held : ∀ member ∈ done, Orderly depth member.2)
    (read : membersOnto unicode reader done text h = .ok (v, rest)) : Orderly (depth + 1) v := by
  fun_induction Json.membersOnto unicode reader done text h with
  | case1 => cases read
  | case2 => cases read
  | case3 => cases read
  | case4 done text h name start named item rest' got after hs shorter =>
      cases read
      refine .ofMembersReversed ?_
      intro member mem
      rcases List.mem_cons.mp mem with rfl | old
      · exact keeps _ _ _ got
      · exact held _ old
  | case5 done text h name start named item rest' got after hs shorter _ ih =>
      refine ih ?_ read
      intro member mem
      rcases List.mem_cons.mp mem with rfl | old
      · exact keeps _ _ _ got
      · exact held _ old
  | case6 => cases read

theorem Reader.Keeps.arrayTail (keeps : reader.Keeps depth) :
    Reader.Keeps (arrayTail reader) (depth + 1) := by
  intro text v rest read
  unfold Json.arrayTail at read
  split at read
  · cases read
    exact .array (by simp)
  · exact keeps.itemsOnto (by simp) read

theorem Reader.Keeps.objectTail (keeps : reader.Keeps depth) (unicode : Reader Char) :
    Reader.Keeps (objectTail unicode reader) (depth + 1) := by
  intro text v rest read
  unfold Json.objectTail at read
  split at read
  · cases read
    exact .object .nil (by simp)
  · exact keeps.membersOnto (by simp) read

end Readers

/-- The reader of inner values at the deepest level, and at any other. -/
def inner? (rules : Rules) : (depth : Nat) → Option (Reader Json)
  | 0 => none
  | depth + 1 => some (value rules depth)

theorem value_eq (rules : Rules) (depth : Nat) :
    value rules depth = afterSpace (valueFrom rules (inner? rules depth)) := by
  cases depth <;> rfl

theorem orderly_of_valueFrom {depth : Nat} {c : Char} {text rest : List Char} {v : Json}
    (inner : ∀ level, depth = level + 1 → (value .strict level).Keeps level)
    (gives : (valueFrom .strict (inner? .strict depth) c text).Gives v rest) : Orderly depth v := by
  unfold valueFrom at gives
  split at gives
  · obtain ⟨rfl, -⟩ := (keyword_gives_iff ()).mp gives
    exact .null
  split at gives
  · obtain ⟨rfl, -⟩ := (keyword_gives_iff ()).mp gives
    exact .bool true
  split at gives
  · obtain ⟨rfl, -⟩ := (keyword_gives_iff ()).mp gives
    exact .bool false
  split at gives
  · obtain ⟨s, rfl, -⟩ := gives.of_within.exists_of_map
    exact .string s
  split at gives
  · obtain ⟨n, rfl, _, read⟩ := gives.exists_of_map
    exact .number (inRange_of_strictNumber read)
  split at gives
  · cases depth with
    | zero => exact absurd gives not_gives_error
    | succ level =>
        obtain ⟨_, read⟩ := gives.of_within
        exact (inner level rfl).arrayTail _ _ _ read
  split at gives
  · cases depth with
    | zero => exact absurd gives not_gives_error
    | succ level =>
        obtain ⟨_, read⟩ := gives.of_within
        exact (inner level rfl).objectTail _ _ _ _ read
  · exact absurd gives not_gives_error

/-- Whatever value is read is orderly and no deeper than the reader goes. -/
theorem value_keeps (depth : Nat) : (value .strict depth).Keeps depth := by
  induction depth using Nat.strongRecOn with
  | ind depth ih =>
      have inner : ∀ level, depth = level + 1 → (value .strict level).Keeps level := by
        rintro level rfl
        exact ih level (Nat.lt_succ_self level)
      intro text v rest read
      have gives : (value .strict depth text).Gives v rest.1 := ⟨rest.2, read⟩
      rw [value_eq] at gives
      obtain ⟨c, tail, -, gives⟩ := gives.exists_of_afterSpace
      exact orderly_of_valueFrom inner gives

theorem orderly_of_read {text : List Char} {v : Json} (read : Json.read text = .ok v) :
    Orderly deepest v := by
  unfold Json.read at read
  split at read
  · cases read
  · next got =>
      split at read
      · cases read
        exact value_keeps deepest _ _ _ got
      · cases read

end ProfileClient.Json
