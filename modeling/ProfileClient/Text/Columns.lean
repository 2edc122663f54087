import ProfileClient.Text.Boundary
import ProfileClient.Text.Extent
import ProfileClient.Text.Picture
/-!
The columns of a cluster. They are the sum over its characters, but for those that form one sign:
pictures that are joined, toned or selected, and Khmer letters written below others. A cluster is
measured from its end, since what a character adds depends on what stands behind it.
-/
namespace ProfileClient.Text

/-- What stands behind a character, as far as the character's columns depend on it. -/
inductive Trailer where
  | plain
  | lineFeed
  /-- The selector that asks for text. -/
  | textSelector
  /-- The selector that asks for a picture. -/
  | pictureSelector
  | tone
  | picture
  /-- A joiner with a picture behind it. -/
  | joined
  /-- An enclosing keycap before what is joined. -/
  | joinedKeycap
  /-- The selector that asks for a picture, before what is joined or its keycap. -/
  | joinedSelector
  /-- The tag of a region before what is joined: digits, and letters behind them. -/
  | joinedTag (digits letters : Nat)
  /-- A regional indicator before what is joined. -/
  | joinedRegional
  /-- A Khmer letter that has a form below the line. -/
  | lowered
deriving DecidableEq, Repr

/-- The Khmer letters that take no column of their own when they are written below another. -/
def loweredRanges : List (Nat × Nat) := [
  (0x1780, 0x1782), (0x1784, 0x1787), (0x1789, 0x178C), (0x178E, 0x1793), (0x1795, 0x1798),
  (0x179B, 0x179D), (0x17A0, 0x17A0), (0x17A2, 0x17A2), (0x17A7, 0x17A7), (0x17AB, 0x17AC),
  (0x17AF, 0x17AF)]

/-- Default-ignorable marks and the joiner: they may stand between signs that belong together. -/
def transparentRanges : List (Nat × Nat) := [
  (0x34F, 0x34F), (0x17B4, 0x17B5), (0x180B, 0x180D), (0x180F, 0x180F), (0x200D, 0x200D),
  (0xFE00, 0xFE0F), (0xE0100, 0xE01EF)]

/-- What a character is to the one before it, whatever stands behind it. -/
def Trailer.of (c : Char) : Trailer :=
  if c = '\n' then .lineFeed
  else if c.toNat < 0x1780 then .plain
  else if c.toNat = 0xFE0E then .textSelector
  else if c.toNat = 0xFE0F then .pictureSelector
  else if isTone c then .tone
  else if isPictureByDefault c then .picture
  else if inRanges loweredRanges c then .lowered
  else .plain

/-- The columns of the end of a cluster, and what it is to the character before it. -/
structure Measure where
  columns : Nat
  trailer : Trailer
deriving DecidableEq, Repr

namespace Measure

def empty : Measure := ⟨0, .plain⟩

/-- The measure with a character before it that counts by itself. -/
def add (behind : Measure) (c : Char) : Measure := ⟨charColumns c + behind.columns, .of c⟩

/-- The measure with a character before it that merges with it. -/
def merge (behind : Measure) (trailer : Trailer) : Measure := ⟨behind.columns, trailer⟩

/-- A character before a joiner that has a picture behind it. -/
def addJoined (behind : Measure) (c : Char) : Measure :=
  if c.toNat = 0xFE0F then behind.merge .joinedSelector
  else if c.toNat = 0x20E3 then behind.merge .joinedKeycap
  else if c.toNat = 0xE007F then behind.merge (.joinedTag 0 0)
  else if isTone c then behind.merge .tone
  else if isPictureByDefault c then behind.merge .picture
  else if isRegional c then ⟨1 + behind.columns, .joinedRegional⟩
  else behind.add c

/-- A character before the tag of a region, which is the end of a flag: the black flag with two
letters or three digits, and up to four letters behind them. -/
def addTagged (behind : Measure) (digits letters : Nat) (c : Char) : Measure :=
  if 0xE0061 ≤ c.toNat && c.toNat ≤ 0xE007A && digits = 0 && letters < 6 then
    behind.merge (.joinedTag 0 (letters + 1))
  else if 0xE0030 ≤ c.toNat && c.toNat ≤ 0xE0039 && letters < 5 && digits < 3 then
    behind.merge (.joinedTag (digits + 1) letters)
  else if c.toNat = 0x1F3F4 && (digits = 3 || (digits = 0 && 3 ≤ letters)) then
    behind.merge .picture
  else behind.add c

/-- The measure with one more character at its start. -/
def cons (c : Char) (behind : Measure) : Measure :=
  match behind.trailer with
  | .plain => behind.add c
  | .lineFeed => if c = '\r' then behind.merge .plain else behind.add c
  | .textSelector =>
    if isTextSelectable c then ⟨1 + behind.columns, .plain⟩ else behind.add c
  | .pictureSelector =>
    if isSelectable c then ⟨2 + behind.columns, .picture⟩ else behind.add c
  | .tone =>
    if c.toNat = 0x200D then behind.merge .joined
    else if isToneable c then behind.merge .picture
    else behind.add c
  | .picture => if c.toNat = 0x200D then behind.merge .joined else behind.add c
  | .joined => behind.addJoined c
  | .joinedKeycap =>
    if c.toNat = 0xFE0F then behind.merge .joinedSelector else behind.add c
  | .joinedSelector => if isSelectable c then behind.merge .picture else behind.add c
  | .joinedTag digits letters => behind.addTagged digits letters c
  | .joinedRegional =>
    if isRegional c then ⟨behind.columns - 1, .plain⟩ else behind.add c
  | .lowered =>
    if c.toNat = 0x17D2 then ⟨behind.columns - 1, .plain⟩
    else if inRanges transparentRanges c then behind
    else behind.add c

end Measure

def columns (cluster : List Char) : Nat := (cluster.foldr Measure.cons .empty).columns

/-- A character that is a cluster by itself has its own columns. -/
@[simp]
theorem columns_singleton (c : Char) : columns [c] = charColumns c := by
  simp [columns, Measure.cons, Measure.empty, Measure.add]

end ProfileClient.Text
