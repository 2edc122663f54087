import ProfileClient.Text.Boundary
/-!
Characters that a reader sees as one: extended grapheme clusters. Whether a character goes on with
the cluster before it depends on a little of what the cluster holds, which `Joint` keeps.
-/
namespace ProfileClient.Text

/-- The classes of characters at cluster boundaries. -/
inductive Joining where
  | carriageReturn
  | lineFeed
  | control
  | extending
  | zeroWidthJoiner
  | regional
  | prepending
  | spacing
  | leading
  | vowel
  | trailing
  | syllable
  | closedSyllable
  | other
deriving DecidableEq, Repr

/-- The class of a character that is part of a syllable or is a whole one, of Hangul or, as far as
vowels go, of Kirat Rai. Syllables without a trailing consonant are apart. -/
def syllabic? (c : Char) : Option Joining :=
  let n := c.toNat
  if (0x1100 ≤ n && n ≤ 0x115F) || (0xA960 ≤ n && n ≤ 0xA97C) then some .leading
  else if (0x1160 ≤ n && n ≤ 0x11A7) || (0xD7B0 ≤ n && n ≤ 0xD7C6) then some .vowel
  else if n = 0x16D63 || (0x16D67 ≤ n && n ≤ 0x16D6A) then some .vowel
  else if (0x11A8 ≤ n && n ≤ 0x11FF) || (0xD7CB ≤ n && n ≤ 0xD7FB) then some .trailing
  else if 0xAC00 ≤ n && n ≤ 0xD7A3 then
    some (if (n - 0xAC00) % 28 = 0 then .syllable else .closedSyllable)
  else none

def Joining.of (c : Char) : Joining :=
  if c = '\r' then .carriageReturn
  else if c = '\n' then .lineFeed
  else if c.toNat < 0x7F then if c.toNat < 0x20 then .control else .other
  else if c.toNat = 0x200D then .zeroWidthJoiner
  else if isRegional c then .regional
  else if isControlling c then .control
  else if isExtending c then .extending
  else if isSpacing c then .spacing
  else if isPrepending c then .prepending
  else (syllabic? c).getD .other

/-- How far a sequence of pictographs, or of consonants, is on its way to a further member. -/
inductive Chain where
  | absent
  | opened
  | linked
deriving DecidableEq, Repr

/-- What the end of a cluster tells about the next character. -/
structure Joint where
  last : Joining
  pictographs : Chain
  consonants : Chain
  /-- An odd number of regional indicators stands at the end. -/
  oddRegional : Bool

def Joint.start (c : Char) : Joint where
  last := .of c
  pictographs := if isPictographic c then .opened else .absent
  consonants := if isConjunctConsonant c then .opened else .absent
  oddRegional := Joining.of c = .regional

/-- The joint after one more character of the cluster. -/
def Joint.next (joint : Joint) (c : Char) : Joint :=
  let joining := Joining.of c
  { last := joining
    pictographs :=
      if isPictographic c then .opened
      else if joint.pictographs = .opened ∧ joining = .extending then .opened
      else if joint.pictographs = .opened ∧ joining = .zeroWidthJoiner then .linked
      else .absent
    consonants :=
      if isConjunctConsonant c then .opened
      else if joint.consonants ≠ .absent ∧ isConjunctLinker c then .linked
      else if joining = .zeroWidthJoiner ∨ (joining = .extending ∧ c.toNat ≠ 0x200C) then
        joint.consonants
      else .absent
    oddRegional := joining = .regional && !joint.oddRegional }

/-- The character belongs to the cluster that ends with the joint. -/
def Joint.takes (joint : Joint) (c : Char) : Bool :=
  match joint.last, Joining.of c with
  | .carriageReturn, .lineFeed => true
  | .carriageReturn, _ | .lineFeed, _ | .control, _ => false
  | _, .carriageReturn | _, .lineFeed | _, .control => false
  | .leading, .leading | .leading, .vowel | .leading, .syllable | .leading, .closedSyllable => true
  | .syllable, .vowel | .syllable, .trailing | .vowel, .vowel | .vowel, .trailing => true
  | .closedSyllable, .trailing | .trailing, .trailing => true
  | _, .extending | _, .zeroWidthJoiner | _, .spacing => true
  | .prepending, _ => true
  | .regional, .regional => joint.oddRegional
  | _, _ =>
    (joint.consonants = .linked && isConjunctConsonant c) ||
      (joint.pictographs = .linked && isPictographic c)

/-- The clusters of a text, after the cluster `current` that is not finished, last character
first. -/
def clustersFrom (joint : Joint) (current : List Char) : List Char → List (List Char)
  | [] => [current.reverse]
  | c :: rest =>
    if joint.takes c then clustersFrom (joint.next c) (c :: current) rest
    else current.reverse :: clustersFrom (.start c) [c] rest

def clusters : List Char → List (List Char)
  | [] => []
  | c :: rest => clustersFrom (.start c) [c] rest

end ProfileClient.Text
