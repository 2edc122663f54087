import ProfileClient.Text.Utf8
import ProfileClient.Url.Escape
/-!
Hosts of URLs: names, numeric addresses of four octets, and bracketed addresses of eight groups.
Names are brought into ASCII. How that is done for names in other scripts is left open: only what
becomes of plain names, and that blanks are refused, is taken for granted.
-/
namespace ProfileClient.Url

inductive Host where
  | name (text : String)
  | octets (address : Nat)
  | groups (address : List Nat)
deriving DecidableEq, Repr

def digitsIn (base : Nat) (text : List Char) : Option Nat :=
  text.foldlM (fun value c => (hexValue? c).bind fun digit =>
    if digit < base then some (value * base + digit) else none) 0

/-- One number of an address: hexadecimal after `0x`, octal after `0`, else decimal. -/
def addressPart? : List Char → Option Nat
  | [] => none
  | '0' :: 'x' :: rest => digitsIn 16 rest
  | '0' :: 'X' :: rest => digitsIn 16 rest
  | '0' :: c :: rest => digitsIn 8 (c :: rest)
  | text => digitsIn 10 text

/-- The parts between dots; one dot at the very end counts for nothing. -/
def dotted (text : List Char) : List (List Char) :=
  let parts := text.splitOn '.'
  if 1 < parts.length ∧ parts.getLast? = some [] then parts.dropLast else parts

/-- A name whose last part is a number is an address, well-formed or not. -/
def endsInNumber (text : List Char) : Bool :=
  match (dotted text).getLast? with
  | none => false
  | some last => (!last.isEmpty && last.all Char.isDigit) || (addressPart? last).isSome

/-- Every part but the last is one octet, the last fills up the rest. -/
def address? (text : List Char) : Option Nat :=
  let parts := dotted text
  if 4 < parts.length then none
  else do
    let numbers ← parts.mapM addressPart?
    let last ← numbers.getLast?
    let front := numbers.dropLast
    if front.all (· < 256) && last < Nat.pow 256 (4 - front.length) then
      some (front.foldl (fun value n => value * 256 + n) 0 * Nat.pow 256 (4 - front.length) + last)
    else none

def renderOctets (address : Nat) : String :=
  s!"{address / 0x1000000 % 256}.{address / 0x10000 % 256}.{address / 0x100 % 256}.{address % 256}"

def group? (text : List Char) : Option Nat :=
  if text.isEmpty || 4 < text.length then none else digitsIn 16 text

def octet? (text : List Char) : Option Nat :=
  if text.isEmpty || !text.all Char.isDigit || (1 < text.length && text.head? == some '0') then none
  else (digitsIn 10 text).filter (· < 256)

/-- Four octets in decimal stand for two groups. -/
def octetGroups? (text : List Char) : Option (List Nat) :=
  match (text.splitOn '.').mapM octet? with
  | some [a, b, c, d] => some [a * 256 + b, c * 256 + d]
  | _ => none

/-- Groups between colons; the last may be written as four octets if `tail` allows it. -/
def groupsOf? (tail : Bool) (text : List Char) : Option (List Nat) :=
  if text.isEmpty then some []
  else
    let parts := text.splitOn ':'
    match parts.getLast? with
    | none => none
    | some last =>
      if tail && last.contains '.' then do
        some ((← parts.dropLast.mapM group?) ++ (← octetGroups? last))
      else parts.mapM group?

/-- The text before and after the first double colon. -/
def atDoubleColon : List Char → Option (List Char × List Char)
  | [] => none
  | ':' :: ':' :: rest => some ([], rest)
  | c :: rest => (atDoubleColon rest).map fun (before, after) => (c :: before, after)

/-- A double colon stands for the groups of zeros that are missing, at least one. -/
def bracketed? (text : List Char) : Option (List Nat) :=
  match atDoubleColon text with
  | none => (groupsOf? true text).filter (·.length = 8)
  | some (before, after) => do
    let front ← groupsOf? false before
    let back ← groupsOf? true after
    if front.length + back.length < 8 then
      some (front ++ List.replicate (8 - front.length - back.length) 0 ++ back)
    else none

def zeroRun (groups : List Nat) : Nat := (groups.takeWhile (· == 0)).length

/-- Where the first of the longest runs of zeros starts, and its length. -/
def longestZeroRun (groups : List Nat) : Nat × Nat :=
  (List.range groups.length).foldl
    (fun best i =>
      let run := zeroRun (groups.drop i)
      if best.2 < run then (i, run) else best) (0, 0)

def renderGroup (n : Nat) : String := String.ofList (Nat.toDigits 16 n)

/-- The longest run of zeros, if it has two or more, is written as a double colon. -/
def renderGroups (groups : List Nat) : String :=
  let (start, run) := longestZeroRun groups
  let join (part : List Nat) : String := ":".intercalate (part.map renderGroup)
  if run < 2 then s!"[{join groups}]"
  else s!"[{join (groups.take start)}::{join (groups.drop (start + run))}]"

/-- A character of ASCII that no name may hold. -/
def forbidden (c : Char) : Bool :=
  c.toNat ≤ 0x20 || c.toNat == 0x7F || "#/:<>?@[\\]^|%".toList.contains c

/-- A name in ASCII that stands for itself: none of its parts is written for a name in another
script. -/
def IsPlain (name : List Char) : Prop :=
  (∀ c ∈ name, c.toNat < 0x80 ∧ forbidden c = false) ∧
    ∀ part ∈ name.splitOn '.', ¬ ['x', 'n', '-', '-'] <+: part.map Char.toLower

/-- The way in which names are brought into ASCII. -/
class Domains where
  /-- The name in ASCII and in lower case; `none` if it is no name of a host. -/
  toAscii? : List Char → Option (List Char)
  toAscii?_of_isPlain (name : List Char) :
    IsPlain name → toAscii? name = some (name.map Char.toLower)
  toAscii?_of_blank (name : List Char) (c : Char) :
    c ∈ name → c.toNat ≤ 0x20 → toAscii? name = none

/-- The way that knows no names in other scripts. -/
@[reducible]
def Domains.ascii : Domains where
  toAscii? name :=
    if name.all fun c => c.toNat < 0x80 && !forbidden c then some (name.map Char.toLower) else none
  toAscii?_of_isPlain name plain := by
    refine if_pos (List.all_eq_true.mpr fun c mem => ?_)
    simp [plain.1 c mem]
  toAscii?_of_blank name c mem blank := by
    refine if_neg fun all => ?_
    have kept := List.all_eq_true.mp all c mem
    simp [forbidden, blank] at kept

/-- The host as it stands between the account and the port. -/
def Host.read? [Domains] (text : List Char) : Option Host :=
  match text with
  | '[' :: rest =>
    if rest.getLast? = some ']' then (bracketed? rest.dropLast).map .groups else none
  | _ =>
    match Domains.toAscii? (Text.Utf8.decodeLossy (decode text)) with
    | none => none
    | some domain =>
      if domain.isEmpty then none
      else if endsInNumber domain then (address? domain).map .octets
      else some (.name (String.ofList domain))

def Host.render : Host → String
  | .name text => text
  | .octets address => renderOctets address
  | .groups address => renderGroups address

end ProfileClient.Url
