/-!
Lines of a text and the rows that show them. A line ends at a line feed, less one carriage return
before it, and a feed at the very end opens no further line. A row holds at most as many
characters as the pane is wide.
-/
namespace ProfileClient.Text

def withoutReturn (line : List Char) : List Char :=
  if line.getLast? = some '\r' then line.dropLast else line

/-- The lines of a text. Only a line that a feed ends loses its carriage return. -/
def lines (text : List Char) : List (List Char) :=
  let parts := text.splitOn '\n'
  parts.dropLast.map withoutReturn ++ (parts.getLast?.filter (· ≠ [])).toList

/-- Cuts `line` into pieces of `width + 1` characters, the last possibly shorter, and puts them
after the pieces `done`, which stand last first. -/
def piecesOnto (width : Nat) (done : List (List Char)) : List Char → List (List Char)
  | [] => done.reverse
  | c :: rest => piecesOnto width ((c :: rest.take width) :: done) (rest.drop width)
termination_by line => line.length
decreasing_by
  simp only [List.length_drop, List.length_cons]
  omega

/-- The rows of one line: an empty line still takes one row. -/
def piecesOf (width : Nat) (line : List Char) : List (List Char) :=
  if line.isEmpty then [[]] else piecesOnto (width - 1) [] line

/-- The rows of a text at a width; a pane without width is wrapped as if one character wide. -/
def wrap (width : Nat) (text : List Char) : List (List Char) :=
  (lines text).flatMap (piecesOf width)

theorem piecesOnto_eq (width : Nat) : (line : List Char) → (done : List (List Char)) →
    piecesOnto width done line = done.reverse ++ piecesOnto width [] line
  | [], done => by simp [piecesOnto]
  | c :: rest, done => by
      rw [piecesOnto, piecesOnto_eq width (rest.drop width),
        piecesOnto.eq_def width [] (c :: rest)]
      simp only
      rw [piecesOnto_eq width (rest.drop width) [c :: rest.take width]]
      simp
termination_by line => line.length
decreasing_by
  all_goals simp only [List.length_drop, List.length_cons]; omega

/-- The first row takes what the width allows, the others hold the rest. -/
theorem piecesOnto_cons (width : Nat) (c : Char) (rest : List Char) :
    piecesOnto width [] (c :: rest) =
      (c :: rest.take width) :: piecesOnto width [] (rest.drop width) := by
  rw [piecesOnto, piecesOnto_eq]
  rfl

end ProfileClient.Text
