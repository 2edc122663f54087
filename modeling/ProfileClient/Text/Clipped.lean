/-!
Texts cut to a number of octets. A long text is divided at the last offset up to the limit at which
its octets can be divided without dividing a character; an offset that would divide one is no
`Boundary`.
-/
namespace ProfileClient.Text

def octets (text : List Char) : Nat := text.foldr (fun c count => c.utf8Size + count) 0

def encoded (text : List Char) : List UInt8 := text.flatMap String.utf8EncodeChar

/-- An octet that starts a character. -/
def startsCharacter (octet : UInt8) : Bool := octet < 0x80 || 0xC0 ≤ octet

/-- Whether octets can be divided at an offset: at their start, at their end, and before an octet
that starts a character. -/
def isBoundary (octets : List UInt8) (offset : Nat) : Bool :=
  offset == 0 ||
    match octets[offset]? with
    | some octet => startsCharacter octet
    | none => offset == octets.length

/-- The longest run of whole characters from the start that takes at most `budget` octets. -/
def within (budget : Nat) : List Char → List Char
  | [] => []
  | c :: rest =>
    if c.utf8Size ≤ budget then c :: within (budget - c.utf8Size) rest else []

/-- An offset at which the octets of a text can be divided. -/
structure Boundary (text : List Char) where
  offset : Nat
  divides : isBoundary (encoded text) offset = true

namespace Boundary

def before {text : List Char} (boundary : Boundary text) : List Char := within boundary.offset text

/-- The last boundary up to an offset, searched for downwards, one octet after the other. -/
def last (text : List Char) (offset : Nat) : Boundary text :=
  if divides : isBoundary (encoded text) offset = true then ⟨offset, divides⟩
  else last text (offset - 1)
termination_by offset
decreasing_by
  have started : offset ≠ 0 := fun start => divides (start ▸ rfl)
  omega

end Boundary

/-- A text of at most `limit` octets as it is, a longer one cut, with its full length noted. -/
def clipped (limit : Nat) (text : List Char) : List Char :=
  if octets text ≤ limit then text
  else (Boundary.last text limit).before ++
    s!"... (truncated, {octets text} total bytes)".toList

end ProfileClient.Text
