import ProfileClient.Json.Numeral
/-!
Reading JSON values. The walk over a text is one for all purposes; `Rules` says how the lexemes
are taken. `Rules.strict` gives the values themselves; `Rules.skipping` passes over a value that
nobody asked for and checks no more than its grammar.
-/
namespace ProfileClient.Json

/-- How strict a walk takes the escapes and numbers that it meets. -/
structure Rules where
  unicode : Reader Char
  number : Reader Number

/-- Every escape stands for a character and every number is within range. -/
def Rules.strict : Rules := ⟨scalar, strictNumber⟩

def anyUnit : Reader Char := fun text => (hexQuad text).map Char.ofNat

/-- Any numeral passes; one that breaks off is malformed like one that goes on wrongly. -/
def anyNumber : Reader Number := fun text =>
  match numeral text with
  | .error _ => .error .malformed
  | .ok (_, rest) => .ok (.whole 0, rest)

def Rules.skipping : Rules := ⟨anyUnit, anyNumber⟩

/-- The deepest nesting of arrays and objects in a value. -/
def deepest : Nat := 127

/-- The items of an array from the next one on, those read so far last first in `done`. -/
def itemsOnto (value : Reader Json) {origin : List Char} (done : List Json) (text : List Char)
    (h : text.length ≤ origin.length) : Reading Json origin :=
  match value text with
  | .error fault => .error fault
  | .ok (item, rest) =>
    match hs : skipSpace rest.1 with
    | [] => .error .truncated
    | c :: after =>
      have shorter : after.length < text.length :=
        Nat.lt_trans (length_le_of_skipSpace hs) rest.2
      if c = ']' then
        .ok (.array (item :: done).reverse, ⟨after, Nat.lt_of_lt_of_le shorter h⟩)
      else if c = ',' then
        itemsOnto value (item :: done) after (Nat.le_trans (Nat.le_of_lt shorter) h)
      else .error .malformed
termination_by text.length

def memberName (unicode : Reader Char) : Reader String := fun text =>
  match hq : skipSpace text with
  | [] => .error .truncated
  | c :: rest =>
    if c = '"' then
      match quoted unicode rest with
      | .error fault => .error fault
      | .ok (name, after) =>
        match hc : skipSpace after.1 with
        | [] => .error .truncated
        | c :: tail =>
          if c = ':' then
            .ok (name, ⟨tail, Nat.lt_trans (length_le_of_skipSpace hc)
              (Nat.lt_trans after.2 (length_le_of_skipSpace hq))⟩)
          else .error .malformed
    else .error .malformed

/-- The members of an object from the next one on, those read so far last first in `done`. -/
def membersOnto (unicode : Reader Char) (value : Reader Json) {origin : List Char}
    (done : List (String × Json)) (text : List Char) (h : text.length ≤ origin.length) :
    Reading Json origin :=
  match memberName unicode text with
  | .error fault => .error fault
  | .ok (name, start) =>
    match value start.1 with
    | .error fault => .error fault
    | .ok (item, rest) =>
      match hs : skipSpace rest.1 with
      | [] => .error .truncated
      | c :: after =>
        have shorter : after.length < text.length :=
          Nat.lt_trans (length_le_of_skipSpace hs) (Nat.lt_trans rest.2 start.2)
        if c = '\x7d' then
          .ok (ofMembersReversed ((name, item) :: done),
            ⟨after, Nat.lt_of_lt_of_le shorter h⟩)
        else if c = ',' then
          membersOnto unicode value ((name, item) :: done) after
            (Nat.le_trans (Nat.le_of_lt shorter) h)
        else .error .malformed
termination_by text.length

def arrayTail (value : Reader Json) : Reader Json := fun text =>
  match hs : skipSpace text with
  | ']' :: after => .ok (.array [], ⟨after, length_le_of_skipSpace hs⟩)
  | _ => itemsOnto value [] text (length_le_self text)

def objectTail (unicode : Reader Char) (value : Reader Json) : Reader Json := fun text =>
  match hs : skipSpace text with
  | '\x7d' :: after => .ok (.object [], ⟨after, length_le_of_skipSpace hs⟩)
  | _ => membersOnto unicode value [] text (length_le_self text)

/-- The value that starts with the character `c`; `inner` reads the values inside it, and is
missing at the deepest level. -/
def valueFrom (rules : Rules) (inner : Option (Reader Json)) (c : Char) (rest : List Char) :
    Reading Json (c :: rest) :=
  if c = 'n' then keyword .null "ull" c rest
  else if c = 't' then keyword (.bool true) "rue" c rest
  else if c = 'f' then keyword (.bool false) "alse" c rest
  else if c = '"' then ((quoted rules.unicode rest).map .string).within (length_le_cons c rest)
  else if c = '-' ∨ c.isDigit then (rules.number (c :: rest)).map .number
  else if c = '[' then
    match inner with
    | none => .error .malformed
    | some value => (arrayTail value rest).within (length_le_cons c rest)
  else if c = '\x7b' then
    match inner with
    | none => .error .malformed
    | some value => (objectTail rules.unicode value rest).within (length_le_cons c rest)
  else .error .malformed

/-- Passes over blanks and goes on with the character after them. -/
def afterSpace {α : Type} (go : (c : Char) → (rest : List Char) → Reading α (c :: rest)) :
    Reader α := fun text =>
  match hs : skipSpace text with
  | [] => .error .truncated
  | c :: rest => (go c rest).within (length_cons_le_of_skipSpace hs)

/-- The value that the text starts with, blanks before it passed over, of a nesting of at most
`depth`. -/
def value (rules : Rules) : (depth : Nat) → Reader Json
  | 0 => afterSpace (valueFrom rules none)
  | depth + 1 => afterSpace (valueFrom rules (some (value rules depth)))

/-- Passes over a value of a nesting of at most `depth`. As no text holds more levels than
characters, the length of any text around the value is depth enough. -/
def skip (depth : Nat) : Reader Json := value .skipping depth

/-- The value that makes up the whole text. -/
def read (text : List Char) : Except Fault Json :=
  match value .strict deepest text with
  | .error fault => .error fault
  | .ok (json, rest) => if (skipSpace rest.1).isEmpty then .ok json else .error .malformed

end ProfileClient.Json
