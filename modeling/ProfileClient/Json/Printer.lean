import ProfileClient.Json.Basic
import ProfileClient.Decimal.Shortest
/-!
Writing JSON values. Both written forms, the compact and the indented one, come from one printer:
`Spacing` says which blanks stand around items and after names. In strings the quote, the
backslash and the control characters below U+0020 are escaped, and nothing else is.
-/
namespace ProfileClient.Json

def hexDigit (n : Nat) : Char :=
  if n < 10 then Char.ofNat (n + '0'.toNat) else Char.ofNat (n - 10 + 'a'.toNat)

/-- A character inside quotes. -/
def escape (c : Char) : List Char :=
  match c with
  | '"' => ['\\', '"']
  | '\\' => ['\\', '\\']
  | '\x08' => ['\\', 'b']
  | '\x0c' => ['\\', 'f']
  | '\n' => ['\\', 'n']
  | '\r' => ['\\', 'r']
  | '\t' => ['\\', 't']
  | _ =>
    if c.toNat < 0x20 then
      ['\\', 'u', '0', '0', hexDigit (c.toNat / 16), hexDigit (c.toNat % 16)]
    else [c]

def quote (text : String) : List Char := '"' :: text.toList.flatMap escape ++ ['"']

def natural (n : Nat) : List Char := Nat.toDigits 10 n

def integer (i : Int) : List Char :=
  if i < 0 then '-' :: natural i.natAbs else natural i.natAbs

/-- From this scale of the leading digit on, and below the next one, a number is written without
an exponent. -/
def leastPositional : Int := -5
def greatestPositional : Int := 15

/-- A number with its point among the digits or zeros around them; always with a fraction. -/
def positional (digits : List Char) (leading : Int) : List Char :=
  if leading < 0 then
    '0' :: '.' :: List.replicate (-leading - 1).toNat '0' ++ digits
  else
    let places := leading.toNat + 1
    let whole := digits.take places ++ List.replicate (places - digits.length) '0'
    let fraction := digits.drop places
    whole ++ '.' :: if fraction.isEmpty then ['0'] else fraction

/-- A number with a signed power of ten; without a point where one digit is enough. -/
def scientific (digits : List Char) (leading : Int) : List Char :=
  let significand :=
    match digits with
    | [] => []
    | [d] => [d]
    | d :: rest => d :: '.' :: rest
  significand ++ 'e' :: (if leading < 0 then '-' else '+') :: natural leading.natAbs

/-- The shortest digits that read back. -/
def fractional (x : Binary64) : List Char :=
  let shortest := x.shortest
  let digits := natural shortest.digits
  let leading := shortest.scale + digits.length - 1
  let unsigned :=
    if leastPositional ≤ leading ∧ leading ≤ greatestPositional then positional digits leading
    else scientific digits leading
  if x.negative then '-' :: unsigned else unsigned

def Number.print : Number → List Char
  | .whole i => integer i
  | .real x => fractional x

/-- The blanks of a written form: before each item at a depth, before the closing bracket of a
value at a depth, and after the colon. -/
structure Spacing where
  item : Nat → List Char
  close : Nat → List Char
  colon : List Char

def Spacing.compact : Spacing := ⟨fun _ => [], fun _ => [], []⟩

def lineAt (depth : Nat) : List Char := '\n' :: List.replicate (2 * depth) ' '

def Spacing.indented : Spacing := ⟨lineAt, lineAt, [' ']⟩

mutual

/-- The written form of a value that stands at a depth. -/
def printAt (spacing : Spacing) (depth : Nat) : Json → List Char
  | .null => "null".toList
  | .bool true => "true".toList
  | .bool false => "false".toList
  | .number n => n.print
  | .string s => quote s
  | .array [] => "[]".toList
  | .array (item :: items) =>
    '[' :: spacing.item (depth + 1) ++ printAt spacing (depth + 1) item ++
      printItems spacing (depth + 1) items ++ spacing.close depth ++ [']']
  | .object [] => ['\x7b', '\x7d']
  | .object ((name, value) :: members) =>
    '\x7b' :: spacing.item (depth + 1) ++ quote name ++ ':' :: spacing.colon ++
      printAt spacing (depth + 1) value ++ printMembers spacing (depth + 1) members ++
      spacing.close depth ++ ['\x7d']

def printItems (spacing : Spacing) (depth : Nat) : List Json → List Char
  | [] => []
  | item :: items =>
    ',' :: spacing.item depth ++ printAt spacing depth item ++ printItems spacing depth items

def printMembers (spacing : Spacing) (depth : Nat) : List (String × Json) → List Char
  | [] => []
  | (name, value) :: members =>
    ',' :: spacing.item depth ++ quote name ++ ':' :: spacing.colon ++
      printAt spacing depth value ++ printMembers spacing depth members

end

def compact (json : Json) : String := String.ofList (json.printAt .compact 0)

def pretty (json : Json) : String := String.ofList (json.printAt .indented 0)

end ProfileClient.Json
