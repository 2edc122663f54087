/-!
Texts from octets. A text is read character by character; where the octets form none, the longest
start of a character (or else one octet) is set aside as one fault. `decode?` accepts only texts
without a fault, `decodeLossy` puts U+FFFD in the place of each.
-/
namespace ProfileClient.Text.Utf8

/-- Reads the remaining octets of a character. The next one lies between `low` and `high`, and
`more` others follow it; `none` sets aside what was read so far. -/
def follow (low high : UInt8) (value more : Nat) : List UInt8 → Option Char × List UInt8
  | [] => (none, [])
  | octet :: rest =>
    if low ≤ octet ∧ octet ≤ high then
      let value := value * 64 + (octet.toNat - 0x80)
      match more with
      | 0 => (some (Char.ofNat value), rest)
      | more + 1 => follow 0x80 0xBF value more rest
    else (none, octet :: rest)

/-- Reads one character from its first octet on. Overlong forms, surrogates and values above
U+10FFFF are excluded by the range of the second octet. -/
def character (lead : UInt8) (rest : List UInt8) : Option Char × List UInt8 :=
  if lead < 0x80 then (some (Char.ofNat lead.toNat), rest)
  else if lead < 0xC2 then (none, rest)
  else if lead < 0xE0 then follow 0x80 0xBF (lead.toNat - 0xC0) 0 rest
  else if lead = 0xE0 then follow 0xA0 0xBF 0 1 rest
  else if lead = 0xED then follow 0x80 0x9F 0xD 1 rest
  else if lead < 0xF0 then follow 0x80 0xBF (lead.toNat - 0xE0) 1 rest
  else if lead = 0xF0 then follow 0x90 0xBF 0 2 rest
  else if lead < 0xF4 then follow 0x80 0xBF (lead.toNat - 0xF0) 2 rest
  else if lead = 0xF4 then follow 0x80 0x8F 4 2 rest
  else (none, rest)

theorem length_follow_le (low high : UInt8) (value more : Nat) (octets : List UInt8) :
    (follow low high value more octets).2.length ≤ octets.length := by
  induction octets generalizing low high value more with
  | nil => simp [follow]
  | cons octet rest ih =>
      unfold follow
      split
      · cases more with
        | zero => simp
        | succ more => exact Nat.le_succ_of_le (ih ..)
      · simp

theorem length_character_le (lead : UInt8) (rest : List UInt8) :
    (character lead rest).2.length ≤ rest.length := by
  unfold character
  repeat' split
  all_goals first | exact Nat.le_refl _ | exact length_follow_le ..

/-- The characters of the octets, last first before `seen`; `none` stands for a fault. -/
def charactersOnto (seen : List (Option Char)) : List UInt8 → List (Option Char)
  | [] => seen.reverse
  | lead :: rest =>
    let step := character lead rest
    charactersOnto (step.1 :: seen) step.2
termination_by octets => octets.length
decreasing_by exact Nat.lt_succ_of_le (length_character_le lead rest)

def characters (octets : List UInt8) : List (Option Char) := charactersOnto [] octets

def decode? (octets : List UInt8) : Option (List Char) := (characters octets).mapM id

/-- The text, each fault shown as the replacement character. -/
def decodeLossy (octets : List UInt8) : List Char :=
  (characters octets).map (·.getD '\uFFFD')

end ProfileClient.Text.Utf8
