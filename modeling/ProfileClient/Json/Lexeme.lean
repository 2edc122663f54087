import ProfileClient.Json.Basic
import ProfileClient.Text.Clipped
/-!
The lexemes of JSON: blanks, keywords and quoted strings. A reader takes the start of a text and
hands back what is left of it, which is always shorter, so that repeated reading ends. Of two
faults the one further left counts, and a text that ends too early is told apart from one that
holds a wrong character.
-/
namespace ProfileClient.Json

inductive Fault where
  /-- The text ends inside a value. -/
  | truncated
  /-- A character stands where none may stand, or a number is beyond every range. -/
  | malformed
deriving DecidableEq, Repr

/-- A text shorter than the text it was read from. -/
abbrev Rest (text : List Char) := { rest : List Char // rest.length < text.length }

/-- What reading the start of a text gives: a value and the rest, or a fault. -/
abbrev Reading (α : Type) (text : List Char) := Except Fault (α × Rest text)

abbrev Reader (α : Type) := (text : List Char) → Reading α text

/-- The rest of a shorter text is a rest of the longer one. -/
def Rest.within {inner outer : List Char} (h : inner.length ≤ outer.length) (rest : Rest inner) :
    Rest outer :=
  ⟨rest.1, Nat.lt_of_lt_of_le rest.2 h⟩

def Reading.within {α : Type} {inner outer : List Char} (h : inner.length ≤ outer.length) :
    Reading α inner → Reading α outer
  | .error fault => .error fault
  | .ok (value, rest) => .ok (value, rest.within h)

def Reading.map {α β : Type} {text : List Char} (f : α → β) : Reading α text → Reading β text
  | .error fault => .error fault
  | .ok (value, rest) => .ok (f value, rest)

theorem length_le_self (text : List Char) : text.length ≤ text.length := Nat.le_refl _

theorem length_le_cons (c : Char) (rest : List Char) : rest.length ≤ (c :: rest).length :=
  Nat.le_succ _

def isSpace (c : Char) : Bool := c == ' ' || c == '\t' || c == '\n' || c == '\r'

def skipSpace (text : List Char) : List Char := text.dropWhile isSpace

theorem length_skipSpace_le (text : List Char) : (skipSpace text).length ≤ text.length :=
  (List.dropWhile_sublist isSpace).length_le

theorem length_le_of_skipSpace {text rest : List Char} {c : Char}
    (h : skipSpace text = c :: rest) : rest.length < text.length := by
  have := length_skipSpace_le text
  rw [h] at this
  exact this

theorem length_cons_le_of_skipSpace {text rest : List Char} {c : Char}
    (h : skipSpace text = c :: rest) : (c :: rest).length ≤ text.length :=
  length_le_of_skipSpace h

def expect : (word text : List Char) →
    Except Fault { rest : List Char // rest.length ≤ text.length }
  | [], text => .ok ⟨text, length_le_self text⟩
  | _ :: _, [] => .error .truncated
  | w :: word, c :: text =>
    if w = c then
      match expect word text with
      | .error fault => .error fault
      | .ok rest => .ok ⟨rest.1, Nat.le_succ_of_le rest.2⟩
    else .error .malformed

/-- The keyword that `c` opens, given its remaining letters. -/
def keyword {α : Type} (value : α) (word : String) (c : Char) (text : List Char) :
    Reading α (c :: text) :=
  match expect word.toList text with
  | .error fault => .error fault
  | .ok rest => .ok (value, ⟨rest.1, Nat.lt_succ_of_le rest.2⟩)

def hexDigit? (c : Char) : Option Nat :=
  if '0' ≤ c ∧ c ≤ '9' then some (c.toNat - '0'.toNat)
  else if 'a' ≤ c ∧ c ≤ 'f' then some (c.toNat - 'a'.toNat + 10)
  else if 'A' ≤ c ∧ c ≤ 'F' then some (c.toNat - 'A'.toNat + 10)
  else none

/-- Four hexadecimal digits. A text of fewer than four octets is too short for them. -/
def hexQuad : Reader Nat
  | a :: b :: c :: d :: rest =>
    match hexDigit? a, hexDigit? b, hexDigit? c, hexDigit? d with
    | some a, some b, some c, some d =>
      .ok (((a * 16 + b) * 16 + c) * 16 + d, ⟨rest, by simp; omega⟩)
    | _, _, _, _ => .error .malformed
  | text => .error (if Text.octets text < 4 then .truncated else .malformed)

/-- The character of a `\u` escape. A character beyond U+FFFF is written as two escapes, a high
surrogate and a low one; neither may stand alone. -/
def scalar : Reader Char := fun text =>
  match hexQuad text with
  | .error fault => .error fault
  | .ok (unit, rest) =>
    if 0xDC00 ≤ unit ∧ unit ≤ 0xDFFF then .error .malformed
    else if 0xD800 ≤ unit ∧ unit ≤ 0xDBFF then
      match hr : rest.1 with
      | [] => .error .truncated
      | ['\\'] => .error .truncated
      | '\\' :: 'u' :: tail =>
        match hexQuad tail with
        | .error fault => .error fault
        | .ok (low, after) =>
          if 0xDC00 ≤ low ∧ low ≤ 0xDFFF then
            .ok (Char.ofNat ((unit - 0xD800) * 0x400 + (low - 0xDC00) + 0x10000),
              after.within (by have := rest.2; rw [hr] at this; simp at this; omega))
          else .error .malformed
      | _ => .error .malformed
    else .ok (Char.ofNat unit, rest)

def shortEscape? (c : Char) : Option Char :=
  match c with
  | '"' => some '"'
  | '\\' => some '\\'
  | '/' => some '/'
  | 'b' => some '\x08'
  | 'f' => some '\x0c'
  | 'n' => some '\n'
  | 'r' => some '\r'
  | 't' => some '\t'
  | _ => none

/-- What stands after a backslash; `unicode` reads what follows a `u`. -/
def escaped (unicode : Reader Char) : Reader Char
  | [] => .error .truncated
  | c :: text =>
    if c = 'u' then (unicode text).within (length_le_cons c text)
    else
      match shortEscape? c with
      | some value => .ok (value, ⟨text, Nat.lt_succ_self _⟩)
      | none => .error .malformed

/-- Reads up to the closing quote, with the characters read so far in `done`, last first. -/
def quotedOnto (unicode : Reader Char) {origin : List Char} (done : List Char)
    (text : List Char) (h : text.length ≤ origin.length) : Reading String origin :=
  match text with
  | [] => .error .truncated
  | c :: rest =>
    if c = '"' then .ok (String.ofList done.reverse, ⟨rest, h⟩)
    else if c = '\\' then
      match escaped unicode rest with
      | .error fault => .error fault
      | .ok (value, after) =>
        quotedOnto unicode (value :: done) after.1
          (Nat.le_trans (Nat.le_of_lt after.2) (Nat.le_of_lt h))
    else if c.toNat < 0x20 then .error .malformed
    else quotedOnto unicode (c :: done) rest (Nat.le_of_lt h)
termination_by text.length
decreasing_by
  · exact Nat.lt_succ_of_lt after.2
  · exact Nat.lt_succ_self _

def quoted (unicode : Reader Char) : Reader String := fun text =>
  quotedOnto unicode [] text (length_le_self text)

end ProfileClient.Json
