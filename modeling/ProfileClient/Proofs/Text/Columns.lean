import Mathlib.Algebra.GroupWithZero.Nat
import Mathlib.Tactic.SplitIfs
import ProfileClient.Text.Cluster
import ProfileClient.Text.Columns
/-!
How many columns a text takes. No sign takes more columns than its characters take one by one, if
each of them is given at least one; characters that join no others take just their own.
-/
namespace ProfileClient.Text

theorem flatten_clustersFrom (joint : Joint) (current rest : List Char) :
    (clustersFrom joint current rest).flatten = current.reverse ++ rest := by
  induction rest generalizing joint current with
  | nil => simp [clustersFrom]
  | cons c rest ih =>
      unfold clustersFrom
      split
      · rw [ih, List.reverse_cons, List.append_assoc]
        rfl
      · rw [List.flatten_cons, ih]
        rfl

theorem flatten_clusters (text : List Char) : (clusters text).flatten = text := by
  cases text with
  | nil => rfl
  | cons c rest => exact flatten_clustersFrom (.start c) [c] rest

/-- The character belongs to no class that joins others. -/
def StandsAlone (c : Char) : Prop := Joining.of c = .other

instance (c : Char) : Decidable (StandsAlone c) :=
  inferInstanceAs (Decidable (Joining.of c = .other))

/-- A cluster of one character has no chain that could take a second one in. -/
theorem takes_start_of_standsAlone {c d : Char} (first : StandsAlone c) (second : StandsAlone d) :
    (Joint.start c).takes d = false := by
  unfold StandsAlone at first second
  have consonants : (Joint.start c).consonants ≠ .linked := by
    simp only [Joint.start]
    split <;> decide
  have pictographs : (Joint.start c).pictographs ≠ .linked := by
    simp only [Joint.start]
    split <;> decide
  have last : (Joint.start c).last = .other := first
  simp [Joint.takes, last, second, consonants, pictographs]

theorem clustersFrom_of_standsAlone {c : Char} {rest : List Char} (first : StandsAlone c)
    (others : ∀ d ∈ rest, StandsAlone d) :
    clustersFrom (.start c) [c] rest = (c :: rest).map ([·]) := by
  induction rest generalizing c with
  | nil => rfl
  | cons d rest ih =>
      obtain ⟨second, others⟩ := List.forall_mem_cons.mp others
      rw [clustersFrom, takes_start_of_standsAlone first second, ih second others]
      rfl

theorem clusters_of_standsAlone {text : List Char} (alone : ∀ c ∈ text, StandsAlone c) :
    clusters text = text.map ([·]) := by
  cases text with
  | nil => rfl
  | cons c rest =>
      obtain ⟨first, others⟩ := List.forall_mem_cons.mp alone
      exact clustersFrom_of_standsAlone first others

/-- What a character before this one may take beyond its own columns: a picture selector takes none
itself and makes its base two wide. -/
def Trailer.allowance : Trailer → Nat
  | .pictureSelector => 1
  | _ => 0

def Measure.weight (measure : Measure) : Nat := measure.columns + measure.trailer.allowance

theorem allowance_of_ne {c : Char} (other : c.toNat ≠ 0xFE0F) : (Trailer.of c).allowance = 0 := by
  unfold Trailer.of
  split_ifs <;> rfl

theorem columns_add_allowance_le (c : Char) :
    charColumns c + (Trailer.of c).allowance ≤ max 1 (charColumns c) := by
  by_cases selector : c.toNat = 0xFE0F
  · have same : c = '\uFE0F' := Char.toNat_inj.mp selector
    subst same
    decide +kernel
  · rw [allowance_of_ne selector]
    exact Nat.le_max_right ..

namespace Measure
variable (behind : Measure) (c : Char)

theorem weight_add_le : (behind.add c).weight ≤ max 1 (charColumns c) + behind.columns := by
  have own := columns_add_allowance_le c
  change charColumns c + behind.columns + (Trailer.of c).allowance ≤ _
  omega

theorem weight_le {next : Measure} (plain : next.trailer.allowance = 0)
    (le : next.columns ≤ 1 + behind.columns) :
    next.weight ≤ max 1 (charColumns c) + behind.columns := by
  unfold weight
  omega

theorem weight_merge_le {trailer : Trailer} (plain : trailer.allowance = 0) :
    (behind.merge trailer).weight ≤ max 1 (charColumns c) + behind.columns :=
  behind.weight_le c plain (Nat.le_add_left ..)

theorem weight_addJoined_le :
    (behind.addJoined c).weight ≤ max 1 (charColumns c) + behind.columns := by
  unfold addJoined
  split_ifs
  · exact behind.weight_merge_le c rfl
  · exact behind.weight_merge_le c rfl
  · exact behind.weight_merge_le c rfl
  · exact behind.weight_merge_le c rfl
  · exact behind.weight_merge_le c rfl
  · exact behind.weight_le c rfl (Nat.le_refl _)
  · exact behind.weight_add_le c

theorem weight_addTagged_le (digits letters : Nat) :
    (behind.addTagged digits letters c).weight ≤ max 1 (charColumns c) + behind.columns := by
  unfold addTagged
  split_ifs
  · exact behind.weight_merge_le c rfl
  · exact behind.weight_merge_le c rfl
  · exact behind.weight_merge_le c rfl
  · exact behind.weight_add_le c

/-- One more character adds at most its own columns, or one. Only a base before a picture selector
takes more, and that is what the selector left free. -/
theorem weight_cons_le : (cons c behind).weight ≤ max 1 (charColumns c) + behind.weight := by
  have fewer : ∀ columns, columns - 1 ≤ 1 + columns := by omega
  rcases behind with ⟨columns, trailer⟩
  cases trailer with
  | plain => exact weight_add_le _ c
  | lineFeed =>
      simp only [cons]
      split
      · exact weight_merge_le _ c rfl
      · exact weight_add_le _ c
  | textSelector =>
      simp only [cons]
      split
      · exact weight_le ⟨columns, .textSelector⟩ c rfl (Nat.le_refl _)
      · exact weight_add_le _ c
  | pictureSelector =>
      simp only [cons]
      split
      · change 2 + columns + 0 ≤ max 1 (charColumns c) + (columns + 1)
        omega
      · exact Nat.le_trans (weight_add_le _ c) (Nat.add_le_add_left (Nat.le_add_right ..) _)
  | tone =>
      simp only [cons]
      split_ifs
      · exact weight_merge_le _ c rfl
      · exact weight_merge_le _ c rfl
      · exact weight_add_le _ c
  | picture =>
      simp only [cons]
      split
      · exact weight_merge_le _ c rfl
      · exact weight_add_le _ c
  | joined => exact weight_addJoined_le _ c
  | joinedKeycap =>
      simp only [cons]
      split
      · exact weight_merge_le _ c rfl
      · exact weight_add_le _ c
  | joinedSelector =>
      simp only [cons]
      split
      · exact weight_merge_le _ c rfl
      · exact weight_add_le _ c
  | joinedTag digits letters => exact weight_addTagged_le _ c digits letters
  | joinedRegional =>
      simp only [cons]
      split
      · exact weight_le ⟨columns, .joinedRegional⟩ c rfl (fewer columns)
      · exact weight_add_le _ c
  | lowered =>
      simp only [cons]
      split_ifs
      · exact weight_le ⟨columns, .lowered⟩ c rfl (fewer columns)
      · exact Nat.le_add_left ..
      · exact weight_add_le _ c

end Measure

/-- The columns of a text if its characters stood one by one, each in a column at least. -/
def looseColumns (text : List Char) : Nat := (text.map fun c => max 1 (charColumns c)).sum

theorem looseColumns_append (first second : List Char) :
    looseColumns (first ++ second) = looseColumns first + looseColumns second := by
  rw [looseColumns, List.map_append, List.sum_append]
  rfl

theorem looseColumns_of_narrow {text : List Char} (narrow : ∀ c ∈ text, charColumns c ≤ 1) :
    looseColumns text = text.length := by
  have one : ∀ c ∈ text, max 1 (charColumns c) = 1 := fun c mem => Nat.max_eq_left (narrow c mem)
  rw [looseColumns, List.map_congr_left one, List.map_const', List.sum_replicate_nat, Nat.mul_one]

theorem columns_le (cluster : List Char) : columns cluster ≤ looseColumns cluster := by
  have weight : (cluster.foldr Measure.cons .empty).weight ≤ looseColumns cluster := by
    induction cluster with
    | nil => exact Nat.le_refl _
    | cons c rest ih =>
        have step := Measure.weight_cons_le (rest.foldr Measure.cons .empty) c
        simp only [List.foldr_cons, looseColumns, List.map_cons, List.sum_cons] at ih ⊢
        omega
  exact Nat.le_trans (Nat.le_add_right ..) weight

theorem sum_columns_le (text : List Char) :
    ((clusters text).map columns).sum ≤ looseColumns text := by
  have parts : ∀ parts : List (List Char),
      (parts.map columns).sum ≤ looseColumns parts.flatten := by
    intro parts
    induction parts with
    | nil => exact Nat.le_refl _
    | cons cluster parts ih =>
        rw [List.map_cons, List.sum_cons, List.flatten_cons, looseColumns_append]
        exact Nat.add_le_add (columns_le cluster) ih
  have whole := parts (clusters text)
  rwa [flatten_clusters] at whole

end ProfileClient.Text
