import ProfileClient.Settings.Reader
import ProfileClient.Proofs.Json.Skipping
import ProfileClient.Proofs.Text.Utf8
/-!
A settings file against the members it lists. The reader goes from left to right and stops at the
first member that does not fit; what it comes to depends on the members alone, and of these only on
those named like a field.
-/
namespace ProfileClient

namespace Json

def natural? : Json → Option Nat
  | .number (.whole (.ofNat n)) => some n
  | _ => none

def nullable? {α : Type} (value? : Json → Option α) : Json → Option (Option α)
  | .null => some none
  | v => (value? v).map some

end Json

namespace Settings

/-- The reading succeeded with this value and left this rest. -/
def Reading.Gives {α : Type} {text : List Char} (reading : Reading α text) (value : α)
    (rest : List Char) : Prop :=
  ∃ shorter, reading = .ok (value, ⟨rest, shorter⟩)

/-- The reading gives the expected value and leaves the rest, or finds a mismatch where none is
expected. -/
def Reading.Agrees {α : Type} {text : List Char} (reading : Reading α text) (expected : Option α)
    (rest : List Char) : Prop :=
  match expected with
  | some value => reading.Gives value rest
  | none => reading = .error .mismatched

section Readings
variable {α β : Type} {text rest : List Char}

theorem Reading.Agrees.within {inner outer : List Char} {reading : Reading α inner}
    {expected : Option α} (agrees : reading.Agrees expected rest)
    (h : inner.length ≤ outer.length) : (reading.within h).Agrees expected rest := by
  cases expected with
  | none =>
      cases agrees
      rfl
  | some value =>
      obtain ⟨shorter, rfl⟩ := agrees
      exact ⟨Nat.lt_of_lt_of_le shorter h, rfl⟩

theorem Reading.Agrees.map {reading : Reading α text} {expected : Option α}
    (agrees : reading.Agrees expected rest) (f : α → β) :
    (reading.map f).Agrees (expected.map f) rest := by
  cases expected with
  | none =>
      cases agrees
      rfl
  | some value =>
      obtain ⟨shorter, rfl⟩ := agrees
      exact ⟨shorter, rfl⟩

theorem ofJson_agrees {reading : Json.Reading α text} {v : α} (gives : reading.Gives v rest) :
    (ofJson reading).Agrees (some v) rest := by
  obtain ⟨shorter, rfl⟩ := gives
  exact ⟨shorter, rfl⟩

end Readings

section Values
variable {c : Char} {text rest : List Char} {v : Json}

/-- Where a value stands, its type is all that can be wrong. -/
theorem mismatch_of_opened (opened : Json.Opened c text rest v) :
    mismatch c text = .mismatched := by
  cases opened with
  | null first letters =>
      obtain ⟨_, read⟩ := letters
      subst first
      simp [mismatch, read]
  | true first letters =>
      obtain ⟨_, read⟩ := letters
      subst first
      simp [mismatch, read]
  | false first letters =>
      obtain ⟨_, read⟩ := letters
      subst first
      simp [mismatch, read]
  | string first quotes =>
      obtain ⟨_, read⟩ := quotes
      subst first
      simp [mismatch, read]
  | number first numeral =>
      obtain ⟨_, read⟩ := numeral
      obtain ⟨noNull, noTrue, noFalse, -⟩ := Json.ne_of_number first
      simp [mismatch, noNull, noTrue, noFalse, first, read]
  | array first =>
      subst first
      simp [mismatch]
  | object first =>
      subst first
      simp [mismatch]

theorem stringFrom_mismatched (opened : Json.Opened c text rest v) (other : c ≠ '"') :
    stringFrom c text = .error .mismatched := by
  rw [stringFrom, if_neg other, mismatch_of_opened opened]

theorem stringFrom_agrees (opened : Json.Opened c text rest v) :
    (stringFrom c text).Agrees v.string? rest := by
  have mismatched := fun other => stringFrom_mismatched opened other
  cases opened with
  | string first quotes =>
      rw [stringFrom, if_pos first]
      exact (ofJson_agrees quotes).within _
  | null first => exact mismatched (by rw [first]; decide)
  | true first => exact mismatched (by rw [first]; decide)
  | false first => exact mismatched (by rw [first]; decide)
  | number first => exact mismatched (Json.ne_of_number first).2.2.2
  | array first => exact mismatched (by rw [first]; decide)
  | object first => exact mismatched (by rw [first]; decide)

theorem secondsFrom_mismatched (opened : Json.Opened c text rest v)
    (other : ¬ (c = '-' ∨ c.isDigit = true)) : secondsFrom c text = .error .mismatched := by
  rw [secondsFrom, if_neg other, mismatch_of_opened opened]

theorem secondsFrom_agrees (opened : Json.Opened c text rest v) :
    (secondsFrom c text).Agrees v.natural? rest := by
  have mismatched := fun other => secondsFrom_mismatched opened other
  cases opened with
  | @number n first numeral =>
      obtain ⟨shorter, read⟩ := numeral
      rw [secondsFrom, if_pos first, read]
      cases n with
      | whole i => cases i with
        | ofNat secs => exact ⟨shorter, rfl⟩
        | negSucc _ => rfl
      | real _ => rfl
  | null first => exact mismatched (by rw [first]; decide)
  | true first => exact mismatched (by rw [first]; decide)
  | false first => exact mismatched (by rw [first]; decide)
  | string first => exact mismatched (by rw [first]; decide)
  | array first => exact mismatched (by rw [first]; decide)
  | object first => exact mismatched (by rw [first]; decide)

theorem optionalFrom_agrees {α : Type} {value? : Json → Option α}
    {value : (c : Char) → (rest : List Char) → Reading α (c :: rest)}
    (agrees : (value c text).Agrees (value? v) rest) (opened : Json.Opened c text rest v) :
    (optionalFrom value c text).Agrees (v.nullable? value?) rest := by
  have given : c ≠ 'n' → (optionalFrom value c text).Agrees ((value? v).map some) rest := by
    intro other
    rw [optionalFrom, if_neg other]
    exact agrees.map some
  cases opened with
  | null first letters =>
      rw [optionalFrom, if_pos first]
      exact ofJson_agrees ((Json.keyword_gives_iff _).mp letters).2
  | true first => exact given (by rw [first]; decide)
  | false first => exact given (by rw [first]; decide)
  | string first => exact given (by rw [first]; decide)
  | number first => exact given (Json.ne_of_number first).1
  | array first => exact given (by rw [first]; decide)
  | object first => exact given (by rw [first]; decide)

end Values

/-- No number of seconds is written as `null`. -/
def optionalSeconds : Option Nat → Json
  | none => .null
  | some secs => .number (.whole secs)

def Field.name : Field → String
  | .baseUrl => "base_url"
  | .email => "email"
  | .orgId => "org_id"
  | .timeoutSecs => "request_timeout_secs"

def Field.Content : Field → Type
  | .baseUrl => String
  | .email | .orgId => Option String
  | .timeoutSecs => Option Nat

def Field.write : (field : Field) → field.Content → Json
  | .baseUrl => .string
  | .email | .orgId => optionalText
  | .timeoutSecs => optionalSeconds

/-- What a value says for a field, if it is of the field's type. -/
def Field.content? : (field : Field) → Json → Option field.Content
  | .baseUrl => Json.string?
  | .email | .orgId => Json.nullable? Json.string?
  | .timeoutSecs => Json.nullable? Json.natural?

def Draft.get : Draft → (field : Field) → Option field.Content
  | draft, .baseUrl => draft.baseUrl
  | draft, .email => draft.email
  | draft, .orgId => draft.orgId
  | draft, .timeoutSecs => draft.timeoutSecs

def Draft.set : Draft → (field : Field) → field.Content → Draft
  | draft, .baseUrl, url => { draft with baseUrl := some url }
  | draft, .email, email => { draft with email := some email }
  | draft, .orgId, orgId => { draft with orgId := some orgId }
  | draft, .timeoutSecs, secs => { draft with timeoutSecs := some secs }

section Fields
variable {field : Field} {v : Json}

theorem Field.ofName?_eq_some_iff {name : String} :
    Field.ofName? name = some field ↔ name = field.name := by
  constructor
  · intro named
    unfold Field.ofName? at named
    split at named
    · next same =>
        cases named
        exact same
    split at named
    · next same =>
        cases named
        exact same
    split at named
    · next same =>
        cases named
        exact same
    split at named
    · next same =>
        cases named
        exact same
    · cases named
  · rintro rfl
    cases field <;> rfl

theorem string?_eq_some_iff {s : String} : v.string? = some s ↔ .string s = v := by
  cases v <;> simp [Json.string?, eq_comm]

theorem nullable_string?_eq_some_iff {s : Option String} :
    v.nullable? Json.string? = some s ↔ optionalText s = v := by
  cases v <;> cases s <;> simp [Json.nullable?, Json.string?, optionalText, eq_comm]

theorem nullable_natural?_eq_some_iff {secs : Option Nat} :
    v.nullable? Json.natural? = some secs ↔ optionalSeconds secs = v := by
  constructor
  · intro read
    rcases v with _ | _ | ((_ | _) | _) | _ | _ | _ <;> cases read <;> rfl
  · rintro rfl
    cases secs <;> rfl

/-- A value says for a field what is written as that value. -/
theorem Field.content?_eq_some_iff {content : field.Content} :
    field.content? v = some content ↔ field.write content = v := by
  cases field with
  | baseUrl => exact string?_eq_some_iff
  | email => exact nullable_string?_eq_some_iff
  | orgId => exact nullable_string?_eq_some_iff
  | timeoutSecs => exact nullable_natural?_eq_some_iff

theorem Field.write_injective (field : Field) : Function.Injective field.write := by
  intro content content' same
  have read : field.content? (field.write content') = some content := content?_eq_some_iff.mpr same
  rw [content?_eq_some_iff.mpr rfl] at read
  exact (Option.some.inj read).symm

theorem Draft.has_eq (draft : Draft) (field : Field) :
    draft.has field = (draft.get field).isSome := by
  cases field <;> rfl

theorem Draft.get_set_self (draft : Draft) (content : field.Content) :
    (draft.set field content).get field = some content := by
  cases field <;> rfl

theorem Draft.get_set_of_ne (draft : Draft) (content : field.Content) {other : Field}
    (differs : other ≠ field) : (draft.set field content).get other = draft.get other := by
  cases field <;> cases other <;> first | rfl | exact absurd rfl differs

theorem Draft.eq_of_get {draft draft' : Draft}
    (same : ∀ field, draft.get field = draft'.get field) : draft = draft' := by
  obtain ⟨baseUrl, email, orgId, timeoutSecs⟩ := draft
  obtain ⟨_, _, _, _⟩ := draft'
  cases (same .baseUrl : baseUrl = _)
  cases (same .email : email = _)
  cases (same .orgId : orgId = _)
  cases (same .timeoutSecs : timeoutSecs = _)
  rfl

end Fields

/-- The draft with the value of a field put in, if the value is of the field's type. -/
def Draft.put? (draft : Draft) (field : Field) (v : Json) : Option Draft :=
  (field.content? v).map (draft.set field)

theorem fieldValue_agrees {depth : Nat} {text rest : List Char} {v : Json} (field : Field)
    (draft : Draft) (valued : (Json.value .strict depth text).Gives v rest) :
    (fieldValue field draft text).Agrees (draft.put? field v) rest := by
  obtain ⟨c, tail, first, opened⟩ := Json.exists_opened valued
  have agrees : (fieldFrom field draft c tail).Agrees (draft.put? field v) rest := by
    cases field with
    | baseUrl => exact (stringFrom_agrees opened).map _
    | email => exact (optionalFrom_agrees (stringFrom_agrees opened) opened).map _
    | orgId => exact (optionalFrom_agrees (stringFrom_agrees opened) opened).map _
    | timeoutSecs => exact (optionalFrom_agrees (secondsFrom_agrees opened) opened).map _
  unfold fieldValue
  split
  · next none => cases first.symm.trans none
  · next c' tail' found =>
      cases first.symm.trans found
      exact agrees.within _

/-- The draft after one more member: unchanged by one of another name, and none by a second one for
a field or one of another type. -/
def Draft.member? (draft : Draft) (member : String × Json) : Option Draft :=
  match Field.ofName? member.1 with
  | none => some draft
  | some field => if draft.has field then none else draft.put? field member.2

theorem memberName_gives {text tail after : List Char} {name : String}
    (first : Json.skipSpace text = '"' :: tail)
    (quotes : (Json.quoted Json.scalar tail).Gives name after) :
    (memberName text).Gives name after := by
  unfold memberName
  split
  · next none => cases first.symm.trans none
  · next c tail' found =>
      cases first.symm.trans found
      rw [if_pos rfl]
      exact (ofJson_agrees quotes).within _

theorem colon_gives {text rest : List Char} (found : Json.skipSpace text = ':' :: rest) :
    (colon text).Gives () rest := by
  refine ⟨Json.length_le_of_skipSpace found, ?_⟩
  unfold colon
  split
  · next none => cases found.symm.trans none
  · next c rest' first =>
      cases found.symm.trans first
      rw [if_pos rfl]

theorem memberValue_agrees {depth bound : Nat} {after start next : List Char} {v : Json}
    (name : String) (draft : Draft) (short : start.length ≤ bound)
    (separated : Json.skipSpace after = ':' :: start)
    (valued : (Json.value .strict depth start).Gives v next) :
    (memberValue bound name draft after).Agrees (draft.member? (name, v)) next := by
  obtain ⟨shorter, read⟩ := colon_gives separated
  unfold memberValue Draft.member?
  dsimp only
  cases Field.ofName? name with
  | some field =>
      dsimp only
      by_cases second : draft.has field = true
      · rw [if_pos second, if_pos second]
        rfl
      · rw [if_neg second, if_neg second, read]
        exact (fieldValue_agrees field draft valued).within _
  | none =>
      dsimp only
      rw [read]
      obtain ⟨w, skipped⟩ := Json.skip_covers depth bound start v next short valued
      exact ((ofJson_agrees skipped).map fun _ => draft).within _

/-- The draft after all members, if each fits. -/
def Draft.members? (draft : Draft) (members : List (String × Json)) : Option Draft :=
  members.foldlM Draft.member? draft

section Listed
variable {bound : Nat} {origin text after next rest : List Char} {name : String}
  {draft filled : Draft}

theorem members_mismatched (named : (memberName text).Gives name after)
    (read : memberValue bound name draft after = .error .mismatched)
    (h : text.length ≤ origin.length) : members bound draft text h = .error .mismatched := by
  obtain ⟨shorterName, named⟩ := named
  rw [members, named]
  dsimp only
  rw [read]

theorem members_last (named : (memberName text).Gives name after)
    (read : (memberValue bound name draft after).Gives filled next)
    (brace : Json.skipSpace next = '\x7d' :: rest) (h : text.length ≤ origin.length) :
    (members bound draft text h).Gives filled rest := by
  obtain ⟨shorterName, named⟩ := named
  obtain ⟨shorter, read⟩ := read
  have left := Json.length_le_of_skipSpace brace
  refine ⟨by omega, ?_⟩
  rw [members, named]
  dsimp only
  rw [read]
  dsimp only
  split
  · next none => cases brace.symm.trans none
  · next c tail found =>
      cases brace.symm.trans found
      rw [if_pos rfl]

theorem members_next {others : List Char} {expected : Option Draft}
    (named : (memberName text).Gives name after)
    (read : (memberValue bound name draft after).Gives filled next)
    (comma : Json.skipSpace next = ',' :: others)
    (tail : ∀ h : others.length ≤ origin.length,
      (members bound filled others h).Agrees expected rest)
    (h : text.length ≤ origin.length) : (members bound draft text h).Agrees expected rest := by
  obtain ⟨shorterName, named⟩ := named
  obtain ⟨shorter, read⟩ := read
  rw [members, named]
  dsimp only
  rw [read]
  dsimp only
  split
  · next none => cases comma.symm.trans none
  · next c left found =>
      cases comma.symm.trans found
      rw [if_neg (by decide), if_pos rfl]
      exact tail _

theorem exists_member_read {depth : Nat} {start : List Char} {v : Json}
    (named : (Json.memberName Json.scalar text).Gives name start)
    (valued : (Json.value .strict depth start).Gives v next) (short : text.length ≤ bound)
    (draft : Draft) :
    ∃ after, (memberName text).Gives name after ∧
      (memberValue bound name draft after).Agrees (draft.member? (name, v)) next := by
  obtain ⟨tail, after, first, quotes, separated⟩ := Json.memberName_gives_iff.mp named
  obtain ⟨shorterName, -⟩ := named
  exact ⟨after, memberName_gives first quotes,
    memberValue_agrees name draft (by omega) separated valued⟩

end Listed

/-- The reader fills the draft with the members that the text lists, or finds that one does not
fit. -/
theorem members_agrees {depth bound : Nat} {text rest : List Char} {listed : List (String × Json)}
    (lists : Json.Listed depth text listed rest) (short : text.length ≤ bound) :
    ∀ (draft : Draft) {origin : List Char} (h : text.length ≤ origin.length),
      (members bound draft text h).Agrees (draft.members? listed) rest := by
  induction lists with
  | last named valued brace =>
      intro draft origin h
      obtain ⟨after, named, read⟩ := exists_member_read named valued short draft
      rw [Draft.members?, List.foldlM_cons]
      cases fits : draft.member? _ with
      | none =>
          rw [fits] at read
          exact members_mismatched named read h
      | some filled =>
          rw [fits] at read
          exact members_last named read brace h
  | @more text start next others rest name v members named valued comma lists ih =>
      intro draft origin h
      have shorter : others.length ≤ bound := by
        have left := Json.length_le_of_skipSpace comma
        obtain ⟨shorterName, -⟩ := named
        obtain ⟨shorterValue, -⟩ := valued
        omega
      obtain ⟨after, named, read⟩ := exists_member_read named valued short draft
      rw [Draft.members?, List.foldlM_cons]
      cases fits : draft.member? _ with
      | none =>
          rw [fits] at read
          exact members_mismatched named read h
      | some filled =>
          rw [fits] at read
          exact members_next named read comma (ih shorter filled) h

theorem draftFrom_closed {text after : List Char} (closed : Json.skipSpace text = '\x7d' :: after) :
    (draftFrom '\x7b' text).Gives .empty after := by
  refine ⟨Nat.lt_succ_of_lt (Json.length_le_of_skipSpace closed), ?_⟩
  rw [draftFrom, if_pos rfl]
  split
  · next after' found =>
      cases closed.symm.trans found
      rfl
  · next other => exact absurd closed (other after)

theorem draftFrom_agrees {text after : List Char} {listed : List (String × Json)}
    (lists : Json.Listed (Json.deepest - 1) text listed after) :
    (draftFrom '\x7b' text).Agrees (Draft.empty.members? listed) after := by
  obtain ⟨tail, quote⟩ := lists.exists_quote
  rw [draftFrom, if_pos rfl]
  split
  · next after' found => cases quote.symm.trans found
  · exact members_agrees lists (Nat.le_refl _) .empty _

/-- The fields that a text sets are those that the members it lists set, and what is wrong with a
member is its type or that it comes a second time. -/
theorem readDraft_of_lists {text : List Char} {members : List (String × Json)}
    (lists : Json.Lists text members) :
    readDraft text = (Draft.empty.members? members).elim (.error .mismatched) .ok := by
  obtain ⟨rest, after, brace, agrees, ended⟩ : ∃ rest after,
      Json.skipSpace text = '\x7b' :: rest ∧
        (draftFrom '\x7b' rest).Agrees (Draft.empty.members? members) after ∧
        Json.skipSpace after = [] := by
    cases lists with
    | @none rest after brace closed ended =>
        exact ⟨rest, after, brace, draftFrom_closed closed, ended⟩
    | @some rest after _ brace listed ended =>
        exact ⟨rest, after, brace, draftFrom_agrees listed, ended⟩
  rw [readDraft, brace]
  dsimp only
  cases filled : Draft.empty.members? members with
  | none =>
      rw [filled] at agrees
      rw [show draftFrom '\x7b' rest = .error .mismatched from agrees]
      rfl
  | some draft =>
      rw [filled] at agrees
      obtain ⟨shorter, read⟩ := agrees
      rw [read]
      dsimp only
      rw [ended]
      rfl

end Settings
end ProfileClient
