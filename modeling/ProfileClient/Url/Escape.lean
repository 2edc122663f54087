/-!
Percent escapes. A character outside the kept set is written as the octets of its UTF-8, each as
`%` and two hexadecimal digits.
-/
namespace ProfileClient.Url

def upperHex (n : Nat) : Char :=
  if n < 10 then Char.ofNat (n + '0'.toNat) else Char.ofNat (n - 10 + 'A'.toNat)

def escapeOctet (octet : UInt8) : List Char :=
  ['%', upperHex (octet.toNat / 16), upperHex (octet.toNat % 16)]

def encode (keep : Char → Bool) (text : List Char) : List Char :=
  text.flatMap fun c => if keep c then [c] else (String.utf8EncodeChar c).flatMap escapeOctet

def hexValue? (c : Char) : Option Nat :=
  if '0' ≤ c ∧ c ≤ '9' then some (c.toNat - '0'.toNat)
  else if 'a' ≤ c ∧ c ≤ 'f' then some (c.toNat - 'a'.toNat + 10)
  else if 'A' ≤ c ∧ c ≤ 'F' then some (c.toNat - 'A'.toNat + 10)
  else none

/-- The octets that a text with escapes stands for; a percent sign without digits is itself. -/
def decode : List Char → List UInt8
  | [] => []
  | '%' :: a :: b :: rest =>
    match hexValue? a, hexValue? b with
    | some high, some low => UInt8.ofNat (high * 16 + low) :: decode rest
    | _, _ => String.utf8EncodeChar '%' ++ decode (a :: b :: rest)
  | c :: rest => String.utf8EncodeChar c ++ decode rest

def isPrintable (c : Char) : Bool := 0x20 < c.toNat && c.toNat < 0x7F

def keptInPath (c : Char) : Bool := isPrintable c && !("\"#<>?`\x7b\x7d".toList.contains c)

def keptInQuery (c : Char) : Bool := isPrintable c && !("\"#<>'".toList.contains c)

end ProfileClient.Url
