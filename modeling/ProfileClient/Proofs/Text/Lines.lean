import ProfileClient.Text.Lines
/-!
Which lines a text has. `Lined` says it by the feeds that end the lines, without an algorithm; what
is read off a text are its lines and no others.
-/
namespace ProfileClient.Text

/-- A text and its lines. A feed ends a line, together with one carriage return directly before it.
What stands behind the last feed is a line unless it is empty. -/
inductive Lined : List Char → List (List Char) → Prop
  | nothing : Lined [] []
  | unended {line : List Char} : line ≠ [] → '\n' ∉ line → Lined line [line]
  | feed {line rest : List Char} {following : List (List Char)} : '\n' ∉ line →
      line.getLast? ≠ some '\r' → Lined rest following →
      Lined (line ++ '\n' :: rest) (line :: following)
  | returnFeed {line rest : List Char} {following : List (List Char)} : '\n' ∉ line →
      Lined rest following → Lined (line ++ '\r' :: '\n' :: rest) (line :: following)

theorem lines_nil : lines [] = [] := rfl

theorem lines_of_not_mem {line : List Char} (written : line ≠ []) (noFeed : '\n' ∉ line) :
    lines line = [line] := by
  simp [lines, List.splitOn_eq_singleton noFeed, written]

theorem withoutReturn_concat (line : List Char) : withoutReturn (line ++ ['\r']) = line := by
  simp [withoutReturn]

theorem lines_append_feed {line : List Char} (noFeed : '\n' ∉ line) (rest : List Char) :
    lines (line ++ '\n' :: rest) = withoutReturn line :: lines rest := by
  have parts : (line ++ '\n' :: rest).splitOn '\n' = line :: rest.splitOn '\n' := by
    rw [List.splitOn_eq_splitOnP, List.splitOnP_append_cons line rest (by simp),
      ← List.splitOn_eq_splitOnP, ← List.splitOn_eq_splitOnP, List.splitOn_eq_singleton noFeed]
    rfl
  have more : rest.splitOn '\n' ≠ [] := List.splitOn_ne_nil _ _
  have last : (line :: rest.splitOn '\n').getLast? = (rest.splitOn '\n').getLast? := by
    rw [List.getLast?_cons, List.getLast?_eq_some_getLast more, Option.getD_some]
  unfold lines
  dsimp only
  rw [parts, List.dropLast_cons_of_ne_nil more, last, List.map_cons, List.cons_append]

theorem lined_lines (text : List Char) : Lined text (lines text) := by
  induction h : text.length using Nat.strongRecOn generalizing text with
  | ind length ih =>
      by_cases mem : '\n' ∈ text
      · obtain ⟨line, rest, rfl, noFeed⟩ := List.eq_append_cons_of_mem mem
        have shorter : rest.length < length := by
          rw [← h, List.length_append, List.length_cons]
          omega
        have behind := ih _ shorter rest rfl
        rw [lines_append_feed noFeed]
        by_cases returned : line.getLast? = some '\r'
        · obtain ⟨kept, rfl⟩ := List.getLast?_eq_some_iff.mp returned
          rw [withoutReturn_concat, List.append_assoc]
          exact .returnFeed (fun inside => noFeed (List.mem_append_left _ inside)) behind
        · rw [withoutReturn, if_neg returned]
          exact .feed noFeed returned behind
      · by_cases empty : text = []
        · rw [empty, lines_nil]
          exact .nothing
        · rw [lines_of_not_mem empty mem]
          exact .unended empty mem

theorem Lined.eq_lines {text : List Char} {found : List (List Char)} (lined : Lined text found) :
    found = lines text := by
  induction lined with
  | nothing => rfl
  | unended written noFeed => exact (lines_of_not_mem written noFeed).symm
  | feed noFeed other _ ih =>
      rw [lines_append_feed noFeed, withoutReturn, if_neg other, ih]
  | @returnFeed line rest _ noFeed _ ih =>
      have noFeed : '\n' ∉ line ++ ['\r'] := by simpa using noFeed
      have ended := lines_append_feed noFeed rest
      rw [List.append_assoc, withoutReturn_concat] at ended
      rw [ih]
      exact ended.symm

theorem lines_ne_nil {text : List Char} (written : text ≠ []) : lines text ≠ [] := by
  intro none
  have lined := lined_lines text
  rw [none] at lined
  cases lined
  exact written rfl

theorem Lined.count_le_length {text : List Char} {found : List (List Char)}
    (lined : Lined text found) : text.count '\n' ≤ found.length := by
  induction lined with
  | nothing => exact Nat.le_refl _
  | unended _ noFeed => rw [List.count_eq_zero.mpr noFeed]; exact Nat.zero_le _
  | feed noFeed _ _ ih =>
      rw [List.count_append, List.count_eq_zero.mpr noFeed, List.count_cons_self, Nat.zero_add]
      exact Nat.succ_le_succ ih
  | returnFeed noFeed _ ih =>
      rw [List.count_append, List.count_eq_zero.mpr noFeed, List.count_cons_of_ne (by decide),
        List.count_cons_self, Nat.zero_add]
      exact Nat.succ_le_succ ih

theorem Lined.flatten_eq {text : List Char} {found : List (List Char)} (lined : Lined text found)
    (noReturn : '\r' ∉ text) : found.flatten = text.filter (· ≠ '\n') := by
  have kept : ∀ {line : List Char}, '\n' ∉ line → line.filter (· ≠ '\n') = line := by
    intro line noFeed
    refine List.filter_eq_self.mpr fun c mem => ?_
    have other : c ≠ '\n' := fun feed => noFeed (feed ▸ mem)
    simpa using other
  induction lined with
  | nothing => rfl
  | unended _ noFeed => rw [List.flatten_singleton, kept noFeed]
  | feed noFeed _ _ ih =>
      have behind := ih fun inside =>
        noReturn (List.mem_append_right _ (List.mem_cons_of_mem _ inside))
      rw [List.flatten_cons, behind, List.filter_append, kept noFeed,
        List.filter_cons_of_neg (by decide)]
  | returnFeed => exact absurd (List.mem_append_right _ List.mem_cons_self) noReturn

theorem flatten_lines {text : List Char} (noReturn : '\r' ∉ text) :
    (lines text).flatten = text.filter (· ≠ '\n') := (lined_lines text).flatten_eq noReturn

end ProfileClient.Text
