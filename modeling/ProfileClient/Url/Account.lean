import ProfileClient.Text.Utf8
import ProfileClient.Url.Escape
/-!
Accounts of URLs, the name and the password before an `@`, and the credentials that are sent for
them.
-/
namespace ProfileClient.Url

/-- The digit of a number below 64. -/
def base64Digit (n : Nat) : Char :=
  if n < 26 then Char.ofNat (n + 'A'.toNat)
  else if n < 52 then Char.ofNat (n - 26 + 'a'.toNat)
  else if n < 62 then Char.ofNat (n - 52 + '0'.toNat)
  else if n = 62 then '+'
  else '/'

/-- Three octets are four digits; where octets are missing at the end, `=` stands for digits. -/
def base64 : List UInt8 → List Char
  | [] => []
  | [a] => [base64Digit (a.toNat / 4), base64Digit (a.toNat % 4 * 16), '=', '=']
  | [a, b] =>
    [base64Digit (a.toNat / 4), base64Digit (a.toNat % 4 * 16 + b.toNat / 16),
      base64Digit (b.toNat % 16 * 4), '=']
  | a :: b :: c :: rest =>
    base64Digit (a.toNat / 4) :: base64Digit (a.toNat % 4 * 16 + b.toNat / 16) ::
      base64Digit (b.toNat % 16 * 4 + c.toNat / 64) :: base64Digit (c.toNat % 64) :: base64 rest

example : base64 "ada:pw".toUTF8.toList = "YWRhOnB3".toList := by decide +kernel

/-- The credentials of an account; `none` if it names nobody, or nobody that can be read. -/
def credentials? (account : List Char) : Option String :=
  let text (escaped : List Char) : Option (List Char) := Text.Utf8.decode? (decode escaped)
  match text (account.takeWhile (· ≠ ':')) with
  | none => none
  | some name =>
    let password := (text ((account.dropWhile (· ≠ ':')).drop 1)).getD []
    if name.isEmpty && password.isEmpty then none
    else
      let octets := (name ++ ':' :: password).flatMap String.utf8EncodeChar
      some ("Basic " ++ String.ofList (base64 octets))

end ProfileClient.Url
