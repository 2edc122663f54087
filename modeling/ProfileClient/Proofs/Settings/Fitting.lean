import ProfileClient.Proofs.Json.Literal
import ProfileClient.Proofs.Settings.Members
import ProfileClient.Proofs.Text.Utf8
/-!
What the settings of a file are. Each field is the value of the one member of its name, or its
default where there is none; a second member of the name or a value of another type leaves no
settings at all.
-/
namespace ProfileClient.Settings

/-- The values of the members of a name, in their order. -/
def valuesOf (name : String) (members : List (String × Json)) : List Json :=
  (members.filter (·.1 = name)).map (·.2)

/-- A field of a draft as it is written. -/
def Draft.written (draft : Draft) (field : Field) : Option Json :=
  (draft.get field).map field.write

section Written
variable {draft filled : Draft} {field other : Field} {v : Json}

theorem valuesOf_cons_self (name : String) (v : Json) (members : List (String × Json)) :
    valuesOf name ((name, v) :: members) = v :: valuesOf name members := by
  simp [valuesOf]

theorem valuesOf_cons_of_ne {name other : String} (differs : name ≠ other) (v : Json)
    (members : List (String × Json)) :
    valuesOf other ((name, v) :: members) = valuesOf other members := by
  simp [valuesOf, differs]

theorem Field.name_injective : Function.Injective Field.name := by
  intro field field' same
  have named := ofName?_eq_some_iff.mpr same
  rw [ofName?_eq_some_iff.mpr rfl] at named
  exact Option.some.inj named

theorem Draft.written_set_self (draft : Draft) (content : field.Content) :
    (draft.set field content).written field = some (field.write content) := by
  rw [written, get_set_self, Option.map_some]

theorem Draft.written_set_of_ne (draft : Draft) (content : field.Content)
    (differs : other ≠ field) : (draft.set field content).written other = draft.written other := by
  rw [written, written, get_set_of_ne draft content differs]

theorem Draft.eq_of_written (same : ∀ field, draft.written field = filled.written field) :
    draft = filled :=
  eq_of_get fun field => Option.map_injective field.write_injective (same field)

theorem Draft.exists_content_of_written (is : draft.written field = some v) :
    ∃ content, field.content? v = some content := by
  obtain ⟨content, -, written⟩ := Option.map_eq_some_iff.mp is
  exact ⟨content, Field.content?_eq_some_iff.mpr written⟩

end Written

theorem eq_of_toList_eq {α : Type} {o o' : Option α} (same : o.toList = o'.toList) : o = o' := by
  cases o <;> cases o' <;> cases same <;> rfl

theorem eq_of_toList_eq_cons {α : Type} {o : Option α} {a : α} {l : List α}
    (same : o.toList = a :: l) : o = some a ∧ l = [] := by
  cases o <;> cases same
  exact ⟨rfl, rfl⟩

section Members
variable {draft filled : Draft} {members : List (String × Json)} {field : Field} {v : Json}

/-- The values that the members bring are what a draft is filled with: with those written before
they are at most one for each field, and this is what the field is written as. -/
def Draft.Fills (draft : Draft) (members : List (String × Json)) (filled : Draft) : Prop :=
  ∀ field : Field, (filled.written field).toList =
    (draft.written field).toList ++ valuesOf field.name members

theorem Draft.fills_nil_iff : draft.Fills [] filled ↔ draft = filled := by
  constructor
  · intro fills
    refine eq_of_written fun field => eq_of_toList_eq ?_
    rw [fills field]
    exact (List.append_nil _).symm
  · rintro rfl field
    exact (List.append_nil _).symm

theorem Draft.fills_cons_iff_of_other {name : String} (other : Field.ofName? name = none) :
    draft.Fills ((name, v) :: members) filled ↔ draft.Fills members filled := by
  refine forall_congr' fun field => ?_
  have differs : name ≠ field.name := by
    intro same
    rw [Field.ofName?_eq_some_iff.mpr same] at other
    cases other
  rw [valuesOf_cons_of_ne differs]

theorem Draft.not_fills_of_second (second : draft.has field = true) :
    ¬ draft.Fills ((field.name, v) :: members) filled := by
  intro fills
  rw [has_eq] at second
  obtain ⟨content, got⟩ := Option.isSome_iff_exists.mp second
  have before : draft.written field = some (field.write content) := by rw [written, got]; rfl
  have same := fills field
  rw [valuesOf_cons_self, before] at same
  cases (eq_of_toList_eq_cons same).2

theorem Draft.written_of_not_has (first : ¬ draft.has field = true) :
    draft.written field = none := by
  rw [has_eq, Option.not_isSome_iff_eq_none] at first
  rw [written, first]
  rfl

theorem Draft.not_fills_of_mistyped (first : ¬ draft.has field = true)
    (mistyped : field.content? v = none) :
    ¬ draft.Fills ((field.name, v) :: members) filled := by
  intro fills
  have same := fills field
  rw [valuesOf_cons_self, written_of_not_has first] at same
  obtain ⟨content, typed⟩ := exists_content_of_written (eq_of_toList_eq_cons same).1
  cases mistyped.symm.trans typed

theorem Draft.fills_cons_iff_of_content {content : field.Content} (first : ¬ draft.has field = true)
    (typed : field.content? v = some content) :
    draft.Fills ((field.name, v) :: members) filled ↔
      (draft.set field content).Fills members filled := by
  refine forall_congr' fun other => ?_
  by_cases same : other = field
  · subst same
    rw [valuesOf_cons_self, written_set_self, written_of_not_has first,
      Field.content?_eq_some_iff.mp typed]
    rfl
  · have differs : field.name ≠ other.name := fun named => same (Field.name_injective named).symm
    rw [valuesOf_cons_of_ne differs, written_set_of_ne draft content same]

theorem Draft.members?_eq_some_iff : draft.members? members = some filled ↔
    draft.Fills members filled := by
  induction members generalizing draft with
  | nil => exact Option.some_inj.trans fills_nil_iff.symm
  | cons member members ih =>
      obtain ⟨name, v⟩ := member
      rw [members?, List.foldlM_cons, member?]
      dsimp only
      cases named : Field.ofName? name with
      | none =>
          rw [fills_cons_iff_of_other named]
          exact ih
      | some field =>
          cases Field.ofName?_eq_some_iff.mp named
          by_cases second : draft.has field = true
          · simp [second, not_fills_of_second second]
          · cases typed : field.content? v with
            | none => simp [second, put?, typed, not_fills_of_mistyped second typed]
            | some content =>
                rw [fills_cons_iff_of_content second typed, ← ih]
                simp [second, put?, typed, members?]

end Members

/-- A field of these values: its default if there are none, else the one that it is written as. -/
def Given {α : Type} (write : α → Json) (initial : α) (values : List Json) (content : α) : Prop :=
  values = [] ∧ content = initial ∨ values = [write content]

/-- The settings that members give. -/
structure Fits (members : List (String × Json)) (settings : Settings) : Prop where
  baseUrl : Given .string defaultBaseUrl (valuesOf "base_url" members) settings.baseUrl
  email : Given optionalText none (valuesOf "email" members) settings.email
  orgId : Given optionalText none (valuesOf "org_id" members) settings.orgId
  timeoutSecs : Given optionalSeconds none (valuesOf "request_timeout_secs" members)
    settings.timeoutSecs
  inRange : ∀ secs, settings.timeoutSecs = some secs → secs < UInt64.size
  password : settings.password = none

theorem given_iff {α : Type} {write : α → Json} {initial content : α} {values : List Json} :
    Given write initial values content ↔
      ∃ o : Option α, (o.map write).toList = values ∧ o.getD initial = content := by
  constructor
  · rintro (⟨rfl, rfl⟩ | rfl)
    · exact ⟨none, rfl, rfl⟩
    · exact ⟨some content, rfl, rfl⟩
  · rintro ⟨_ | content, rfl, rfl⟩
    · exact .inl ⟨rfl, rfl⟩
    · exact .inr rfl

theorem exists_draft_iff {members : List (String × Json)} {settings : Settings} :
    (∃ draft, Draft.empty.Fills members draft ∧ draft.settings = settings) ↔
      Given .string defaultBaseUrl (valuesOf "base_url" members) settings.baseUrl ∧
        Given optionalText none (valuesOf "email" members) settings.email ∧
        Given optionalText none (valuesOf "org_id" members) settings.orgId ∧
        Given optionalSeconds none (valuesOf "request_timeout_secs" members)
          settings.timeoutSecs ∧
        settings.password = none := by
  simp only [given_iff]
  constructor
  · rintro ⟨draft, fills, rfl⟩
    exact ⟨⟨draft.baseUrl, fills .baseUrl, rfl⟩, ⟨draft.email, fills .email, rfl⟩,
      ⟨draft.orgId, fills .orgId, rfl⟩, ⟨draft.timeoutSecs, fills .timeoutSecs, rfl⟩, rfl⟩
  · rintro ⟨⟨baseUrl, url, hasUrl⟩, ⟨email, mail, hasMail⟩, ⟨orgId, org, hasOrg⟩,
      ⟨timeoutSecs, secs, hasSecs⟩, noPassword⟩
    refine ⟨⟨baseUrl, email, orgId, timeoutSecs⟩, ?_, ?_⟩
    · intro field
      cases field with
      | baseUrl => exact url
      | email => exact mail
      | orgId => exact org
      | timeoutSecs => exact secs
    · obtain ⟨_, _, _, _, _⟩ := settings
      cases hasUrl
      cases hasMail
      cases hasOrg
      cases hasSecs
      cases noPassword
      rfl

theorem exists_member_of_valuesOf {name : String} {members : List (String × Json)} {v : Json}
    (mem : v ∈ valuesOf name members) : ∃ member ∈ members, member.2 = v := by
  obtain ⟨member, found, is⟩ := List.mem_map.mp mem
  exact ⟨member, (List.mem_filter.mp found).1, is⟩

theorem seconds_lt {text : List Char} {members : List (String × Json)}
    (lists : Json.Lists text members) {content : Option Nat}
    (given : Given optionalSeconds none (valuesOf "request_timeout_secs" members) content) :
    ∀ secs, content = some secs → secs < UInt64.size := by
  rintro secs rfl
  obtain ⟨-, none⟩ | values := given
  · cases none
  · have mem : optionalSeconds (some secs) ∈ valuesOf "request_timeout_secs" members := by
      rw [values]
      exact List.mem_singleton_self _
    obtain ⟨⟨_, v⟩, held, rfl⟩ := exists_member_of_valuesOf mem
    cases lists.orderly _ held with
    | number range => exact_mod_cast range.2

/-- A text is read as the settings that the members it lists give, and else a mismatch is found. -/
theorem read_of_lists {text : List Char} {members : List (String × Json)}
    (lists : Json.Lists text members) :
    (∀ settings, read text = .ok settings ↔ Fits members settings) ∧
      ((∀ settings, ¬ Fits members settings) → read text = .error .mismatched) := by
  have drafted := readDraft_of_lists lists
  have fits_iff : ∀ settings, read text = .ok settings ↔ Fits members settings := by
    intro settings
    have filled : read text = .ok settings ↔
        ∃ draft, Draft.empty.Fills members draft ∧ draft.settings = settings := by
      simp only [← Draft.members?_eq_some_iff, read, drafted]
      cases Draft.empty.members? members <;> simp
    rw [filled, exists_draft_iff]
    constructor
    · rintro ⟨baseUrl, email, orgId, timeoutSecs, password⟩
      exact ⟨baseUrl, email, orgId, timeoutSecs, seconds_lt lists timeoutSecs, password⟩
    · rintro ⟨baseUrl, email, orgId, timeoutSecs, -, password⟩
      exact ⟨baseUrl, email, orgId, timeoutSecs, password⟩
  refine ⟨fits_iff, ?_⟩
  intro unfit
  cases filled : Draft.empty.members? members with
  | none => rw [read, drafted, filled]; rfl
  | some draft =>
      refine absurd ((fits_iff draft.settings).mp ?_) (unfit draft.settings)
      rw [read, drafted, filled]
      rfl

theorem ofFile_of_text (text : List Char) :
    ofFile (some (text.flatMap String.utf8EncodeChar)) = (read text).mapError .unparsable := by
  have decoded : Text.Utf8.decode? (text.flatMap String.utf8EncodeChar) = some text :=
    Text.Utf8.decode?_eq_some_iff.mpr rfl
  simp only [ofFile, decoded]
  cases read text <;> rfl

theorem ofFile_of_lists {text : List Char} {members : List (String × Json)}
    (lists : Json.Lists text members) :
    (∀ settings, ofFile (some (text.flatMap String.utf8EncodeChar)) = .ok settings ↔
        Fits members settings) ∧
      ((∀ settings, ¬ Fits members settings) →
        ofFile (some (text.flatMap String.utf8EncodeChar)) =
          .error (.unparsable .mismatched)) := by
  obtain ⟨fits_iff, mismatched⟩ := read_of_lists lists
  rw [ofFile_of_text]
  refine ⟨?_, ?_⟩
  · intro settings
    rw [← fits_iff settings]
    cases read text with
    | error fault => constructor <;> rintro ⟨⟩
    | ok found => constructor <;> (rintro ⟨⟩; rfl)
  · intro unfit
    rw [mismatched unfit]
    rfl

/-- The names of the members that a file is read for. -/
def fieldNames : List String := ["base_url", "email", "org_id", "request_timeout_secs"]

theorem valuesOf_filter {name : String} (known : name ∈ fieldNames)
    (members : List (String × Json)) :
    valuesOf name (members.filter (·.1 ∈ fieldNames)) = valuesOf name members := by
  rw [valuesOf, valuesOf, List.filter_filter]
  congr 1
  refine List.filter_congr fun member _ => ?_
  by_cases same : member.1 = name <;> simp [same, known]

theorem Fits.congr {members members' : List (String × Json)} {settings : Settings}
    (same : ∀ name ∈ fieldNames, valuesOf name members = valuesOf name members')
    (fits : Fits members settings) : Fits members' settings where
  baseUrl := same "base_url" (by decide) ▸ fits.baseUrl
  email := same "email" (by decide) ▸ fits.email
  orgId := same "org_id" (by decide) ▸ fits.orgId
  timeoutSecs := same "request_timeout_secs" (by decide) ▸ fits.timeoutSecs
  inRange := fits.inRange
  password := fits.password

/-- Texts that list the same members of the names that are looked for give the same. -/
theorem ofFile_congr {text text' : List Char} {members members' : List (String × Json)}
    (lists : Json.Lists text members) (lists' : Json.Lists text' members')
    (same : members'.filter (·.1 ∈ fieldNames) = members.filter (·.1 ∈ fieldNames)) :
    ofFile (some (text'.flatMap String.utf8EncodeChar)) =
      ofFile (some (text.flatMap String.utf8EncodeChar)) := by
  have values : ∀ name ∈ fieldNames, valuesOf name members' = valuesOf name members := by
    intro name known
    rw [← valuesOf_filter known members', same, valuesOf_filter known members]
  have alike : ∀ settings, Fits members' settings ↔ Fits members settings := fun settings =>
    ⟨Fits.congr values, Fits.congr fun name known => (values name known).symm⟩
  obtain ⟨fits_iff, mismatched⟩ := ofFile_of_lists lists
  obtain ⟨fits_iff', mismatched'⟩ := ofFile_of_lists lists'
  by_cases fit : ∃ settings, Fits members settings
  · obtain ⟨settings, fits⟩ := fit
    rw [(fits_iff settings).mpr fits, (fits_iff' settings).mpr ((alike settings).mpr fits)]
  · have unfit := not_exists.mp fit
    have unfit' : ∀ settings, ¬ Fits members' settings :=
      fun settings fits => unfit settings ((alike settings).mp fits)
    rw [mismatched unfit, mismatched' unfit']

/-- A file with the text of an object gives the settings that fit the members that the text lists,
each name looked for at most once, and a mismatch if none fit. Members of other names change
nothing. A number of seconds is one written with its digits alone. -/
theorem ofFile_fits {text : List Char} {object : List (String × Json)}
    (read : Json.read text = .ok (.object object)) :
    ∃ members, (∀ members', Json.Lists text members' ↔ members' = members) ∧
      Json.object object = Json.ofMembersReversed members.reverse ∧
      (∀ settings, ofFile (some (text.flatMap String.utf8EncodeChar)) = .ok settings ↔
        Fits members settings) ∧
      ((∀ settings, ¬ Fits members settings) →
        ofFile (some (text.flatMap String.utf8EncodeChar)) = .error (.unparsable .mismatched)) ∧
      (∀ text' members', Json.Lists text' members' →
        members'.filter (·.1 ∈ fieldNames) = members.filter (·.1 ∈ fieldNames) →
        ofFile (some (text'.flatMap String.utf8EncodeChar)) =
          ofFile (some (text.flatMap String.utf8EncodeChar))) ∧
      ∀ (depth : Nat) (start next : List Char) (n : Nat),
        (Json.value .strict depth start).Gives (.number (.whole n)) next ↔
          n < UInt64.size ∧ Json.skipSpace start = Json.natural n ++ next ∧
            Json.EndsNumeral next := by
  obtain ⟨members, lists, placed⟩ := Json.exists_lists_of_read read
  have unique : ∀ members', Json.Lists text members' ↔ members' = members := by
    intro members'
    constructor
    · intro lists'
      exact lists'.unique lists
    · rintro rfl
      exact lists
  obtain ⟨fits_iff, mismatched⟩ := ofFile_of_lists lists
  exact ⟨members, unique, placed, fits_iff, mismatched,
    fun _ _ lists' same => ofFile_congr lists lists' same, fun _ _ _ _ => Json.value_natural_iff⟩

/-- A repeated member of another name stands beside what is looked for. -/
theorem ofFile_fits_beside_passwords :
    let members : List (String × Json) := [("password", .string "x"),
      ("request_timeout_secs", .number (.whole 7)), ("email", .null), ("password", .array [])]
    let text := Json.printAt .indented 0 (.object members)
    (∃ object, Json.read text = .ok (.object object)) ∧
      ofFile (some (text.flatMap String.utf8EncodeChar)) =
        .ok ⟨"http://localhost:8000", none, none, some 7, none⟩ := by
  intro members text
  have held : ∀ member ∈ members,
      Json.Orderly (Json.deepest - 1) member.2 ∧ Json.Integral member.2 := by
    intro member mem
    simp only [members, List.mem_cons, List.not_mem_nil, or_false] at mem
    rcases mem with rfl | rfl | rfl | rfl
    · exact ⟨.string _, .string _⟩
    · exact ⟨.number ⟨by decide, by decide⟩, .number _⟩
    · exact ⟨.null, .null⟩
    · exact ⟨.array (by simp), .array (by simp)⟩
  have inner : ∀ member ∈ members, (Json.value .strict (Json.deepest - 1)).ReadsAs
      (Json.printAt .indented 1 member.2) member.2 := by
    intro member mem
    obtain ⟨orderly, integral⟩ := held member mem
    exact Json.readsAs_printAt Json.Spacing.indented_blank orderly integral 1
  have read : Json.read text = .ok _ :=
    Json.read_of_readsAs (Json.readsAs_object Json.Spacing.indented_blank 0 inner)
  refine ⟨⟨_, read⟩, ?_⟩
  obtain ⟨listed, unique, -, fits_iff, -⟩ := ofFile_fits read
  cases (unique members).mp (Json.lists_printAt Json.Spacing.indented_blank 0 inner)
  exact (fits_iff _).mpr ⟨.inl ⟨rfl, rfl⟩, .inr rfl, .inl ⟨rfl, rfl⟩, .inr rfl, by decide, rfl⟩

end ProfileClient.Settings
