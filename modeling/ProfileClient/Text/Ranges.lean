/-!
Sets of characters as ranges of code points, each given by its first and its last. The tables of
such ranges are in ascending order.
-/
namespace ProfileClient.Text

def inRanges (ranges : List (Nat × Nat)) (c : Char) : Bool :=
  ranges.any fun range => range.1 ≤ c.toNat && c.toNat ≤ range.2

end ProfileClient.Text
