import ProfileClient.Proofs.Settings.Fitting
/-!
Settings written to a file and read from it again. All but the password come back, and nothing of
the password is written.
-/
namespace ProfileClient.Settings

def InRange (settings : Settings) : Prop :=
  ∀ secs, settings.timeoutSecs = some secs → secs < UInt64.size

def withoutPassword (settings : Settings) : Settings := { settings with password := none }

def writtenMembers (settings : Settings) : List (String × Json) :=
  [("base_url", .string settings.baseUrl), ("email", optionalText settings.email),
    ("org_id", optionalText settings.orgId),
    ("request_timeout_secs", optionalSeconds settings.timeoutSecs)]

section Written
variable {depth : Nat} {settings : Settings}

theorem toJson_eq (settings : Settings) : settings.toJson = .object settings.writtenMembers := by
  unfold toJson writtenMembers
  cases settings.timeoutSecs <;> rfl

/-- Writing does not look at the password. -/
theorem toJson_withoutPassword (settings : Settings) :
    settings.withoutPassword.toJson = settings.toJson := rfl

theorem optionalText_plain (text : Option String) :
    Json.Orderly depth (optionalText text) ∧ Json.Integral (optionalText text) := by
  cases text with
  | none => exact ⟨.null, .null⟩
  | some text => exact ⟨.string text, .string text⟩

theorem optionalSeconds_plain {secs : Option Nat} (range : ∀ n, secs = some n → n < UInt64.size) :
    Json.Orderly depth (optionalSeconds secs) ∧ Json.Integral (optionalSeconds secs) := by
  cases secs with
  | none => exact ⟨.null, .null⟩
  | some n =>
      have fits : n < UInt64.size := range n rfl
      exact ⟨.number ⟨by omega, by exact_mod_cast fits⟩, .number _⟩

theorem writtenMembers_plain (range : settings.InRange) : ∀ member ∈ settings.writtenMembers,
    Json.Orderly depth member.2 ∧ Json.Integral member.2 := by
  intro member mem
  simp only [writtenMembers, List.mem_cons, List.not_mem_nil, or_false] at mem
  rcases mem with rfl | rfl | rfl | rfl
  · exact ⟨.string _, .string _⟩
  · exact optionalText_plain _
  · exact optionalText_plain _
  · exact optionalSeconds_plain range

theorem lists_toJson {spacing : Json.Spacing} (blank : spacing.Blank) (range : settings.InRange) :
    Json.Lists (settings.toJson.printAt spacing 0) settings.writtenMembers := by
  rw [toJson_eq]
  refine Json.lists_printAt blank 0 ?_
  intro member mem
  obtain ⟨orderly, integral⟩ := writtenMembers_plain range member mem
  exact Json.readsAs_printAt blank orderly integral 1

theorem fits_writtenMembers (range : settings.InRange) :
    Fits settings.writtenMembers settings.withoutPassword :=
  ⟨.inr rfl, .inr rfl, .inr rfl, .inr rfl, range, rfl⟩

theorem ofFile_printAt {spacing : Json.Spacing} (blank : spacing.Blank)
    (range : settings.InRange) :
    ofFile (some ((settings.toJson.printAt spacing 0).flatMap String.utf8EncodeChar)) =
      .ok settings.withoutPassword :=
  ((ofFile_of_lists (lists_toJson blank range)).1 _).mpr (fits_writtenMembers range)

theorem ofFile_compact (range : settings.InRange) :
    ofFile (some (settings.toJson.compact.toList.flatMap String.utf8EncodeChar)) =
      .ok settings.withoutPassword := by
  rw [Json.compact, String.toList_ofList]
  exact ofFile_printAt Json.Spacing.compact_blank range

theorem ofFile_pretty (range : settings.InRange) :
    ofFile (some (settings.toJson.pretty.toList.flatMap String.utf8EncodeChar)) =
      .ok settings.withoutPassword := by
  rw [Json.pretty, String.toList_ofList]
  exact ofFile_printAt Json.Spacing.indented_blank range

/-- What comes back tells the texts of different settings apart. -/
theorem compact_eq_iff {settings' : Settings} (range : settings.InRange)
    (range' : settings'.InRange) : settings'.toJson.compact = settings.toJson.compact ↔
      settings'.withoutPassword = settings.withoutPassword := by
  constructor
  · intro same
    have read := ofFile_compact range'
    rw [same, ofFile_compact range] at read
    exact (Except.ok.inj read).symm
  · intro same
    rw [← settings'.toJson_withoutPassword, same, toJson_withoutPassword]

end Written

/-- Settings written to a file come back without their password, and two are written alike just if
they are the same but for the password. -/
theorem ofFile_toJson {settings : Settings} (range : settings.InRange) :
    (∀ text ∈ [settings.toJson.compact, settings.toJson.pretty],
        ofFile (some (text.toList.flatMap String.utf8EncodeChar)) =
          .ok { settings with password := none }) ∧
      ∀ settings' : Settings, settings'.InRange →
        (settings'.toJson.compact = settings.toJson.compact ↔
          { settings' with password := none } = { settings with password := none }) := by
  refine ⟨?_, fun settings' range' => compact_eq_iff range range'⟩
  intro text mem
  simp only [List.mem_cons, List.not_mem_nil, or_false] at mem
  rcases mem with rfl | rfl
  · exact ofFile_compact range
  · exact ofFile_pretty range

/-- Texts that have to be escaped and the greatest number of seconds come back, and a password
leaves no trace. -/
theorem ofFile_toJson_escaped :
    let settings : Settings :=
      ⟨"http://h/\"\\\n", some "\x00é😀", none, some (UInt64.size - 1), some "pw"⟩
    settings.InRange ∧
      ofFile (some (settings.toJson.compact.toList.flatMap String.utf8EncodeChar)) =
        .ok { settings with password := none } ∧
      settings.toJson.compact = { settings with password := some "other" }.toJson.compact := by
  intro settings
  have range : settings.InRange := by
    rintro secs ⟨⟩
    decide
  have written := ofFile_toJson range
  exact ⟨range, written.1 _ List.mem_cons_self,
    ((written.2 { settings with password := some "other" } range).mpr rfl).symm⟩

end ProfileClient.Settings
