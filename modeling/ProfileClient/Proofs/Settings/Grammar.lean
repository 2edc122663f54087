import ProfileClient.Proofs.Settings.Members
/-!
What the reader of settings accepts keeps to the grammar: it leaves of a text what is left by the
walk that passes over values.
-/
namespace ProfileClient

namespace Settings

section Readings
variable {α β : Type} {text rest : List Char} {v : α}

theorem not_gives_error {fault : Fault} :
    ¬ Reading.Gives (.error fault : Reading α text) v rest := by
  rintro ⟨_, read⟩
  cases read

theorem gives_ok_iff {v' : α} {left : Json.Rest text} :
    Reading.Gives (.ok (v', left) : Reading α text) v rest ↔ v' = v ∧ left.1 = rest := by
  constructor
  · rintro ⟨_, read⟩
    obtain ⟨same, left⟩ := Prod.mk.inj (Except.ok.inj read)
    exact ⟨same, congrArg Subtype.val left⟩
  · rintro ⟨rfl, rfl⟩
    exact ⟨left.2, rfl⟩

theorem Reading.Gives.of_within {inner outer : List Char} {h : inner.length ≤ outer.length}
    {reading : Reading α inner} (gives : (reading.within h).Gives v rest) :
    reading.Gives v rest := by
  cases reading with
  | error fault => exact absurd gives not_gives_error
  | ok got =>
      obtain ⟨rfl, rfl⟩ := gives_ok_iff.mp gives
      exact gives_ok_iff.mpr ⟨rfl, rfl⟩

theorem Reading.Gives.exists_of_map {reading : Reading α text} {f : α → β} {w : β}
    (gives : (reading.map f).Gives w rest) : ∃ v, reading.Gives v rest := by
  cases reading with
  | error fault => exact absurd gives not_gives_error
  | ok got =>
      obtain ⟨-, rfl⟩ := gives_ok_iff.mp gives
      exact ⟨got.1, gives_ok_iff.mpr ⟨rfl, rfl⟩⟩

end Readings

/-- The walk that passes over values passes over whatever the reading takes off the text. -/
def Reading.Skipped {α : Type} {c : Char} {text : List Char} (reading : Reading α (c :: text)) :
    Prop :=
  ∀ v rest inner, reading.Gives v rest →
    ∃ w, (Json.valueFrom .skipping inner c text).Gives w rest

section Values
variable {c : Char} {text rest : List Char}

theorem Reading.Skipped.map {α β : Type} {reading : Reading α (c :: text)}
    (skipped : reading.Skipped) (f : α → β) : (reading.map f).Skipped := by
  intro _ rest inner gives
  obtain ⟨v, read⟩ := gives.exists_of_map
  exact skipped v rest inner read

end Values

section Members
variable {depth : Nat} {text rest : List Char} {draft filled : Draft}

end Members

end Settings
end ProfileClient
