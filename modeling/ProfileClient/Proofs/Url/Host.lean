import ProfileClient.Proofs.Text.Utf8
import ProfileClient.Url.Reader
/-!
Hosts and ports that end in a blank or a control character. No URL is read from such a text, so what
comes after it cannot change which host a URL names.
-/
namespace ProfileClient.Url

theorem isPlain_of_all {name : List Char}
    (ascii : name.all (fun c => c.toNat < 0x80 && !forbidden c) = true)
    (parts : (name.splitOn '.').all
      (fun part => !(['x', 'n', '-', '-'].isPrefixOf (part.map Char.toLower))) = true) :
    IsPlain name := by
  refine ⟨fun c mem => ?_, fun part mem => ?_⟩
  · simpa using List.all_eq_true.mp ascii c mem
  · rw [← List.isPrefixOf_iff_prefix, Bool.not_eq_true, ← Bool.not_eq_true']
    exact List.all_eq_true.mp parts part mem

def IsOuter (c : Char) : Prop := c.toNat ≤ 0x20

instance : DecidablePred IsOuter := fun c => inferInstanceAs (Decidable (c.toNat ≤ 0x20))

section Outer
variable {c : Char}

theorem IsOuter.not_le (outer : IsOuter c) {d : Char} (inner : 0x20 < d.toNat) : ¬ d ≤ c := by
  intro below
  have ordered : d.toNat ≤ c.toNat := UInt32.le_iff_toNat_le.mp below
  exact absurd (Nat.le_trans ordered outer) (Nat.not_le_of_lt inner)

theorem IsOuter.ne (outer : IsOuter c) {d : Char} (inner : 0x20 < d.toNat) : c ≠ d := by
  rintro rfl
  exact absurd outer (Nat.not_le_of_lt inner)

theorem IsOuter.hexValue?_eq_none (outer : IsOuter c) : hexValue? c = none := by
  unfold hexValue?
  rw [if_neg fun digit => outer.not_le (by decide) digit.1,
    if_neg fun letter => outer.not_le (by decide) letter.1,
    if_neg fun letter => outer.not_le (by decide) letter.1]

theorem IsOuter.isDigit_eq_false (outer : IsOuter c) : c.isDigit = false := by
  cases digit : c.isDigit with
  | false => rfl
  | true =>
      rw [Char.isDigit, Bool.and_eq_true, decide_eq_true_eq] at digit
      exact absurd digit.1 (outer.not_le (d := '0') (by decide))

end Outer

/-- A character that belongs to no escape keeps its octets. -/
theorem mem_decode {c : Char} (noDigit : hexValue? c = none) (noPercent : c ≠ '%')
    {octet : UInt8} (written : octet ∈ String.utf8EncodeChar c) {text : List Char}
    (mem : c ∈ text) : octet ∈ decode text := by
  fun_induction decode text with
  | case1 => cases mem
  | case2 a b rest high low digit digit' ih =>
      have apart : c ≠ a ∧ c ≠ b := by
        constructor <;> rintro rfl <;> simp_all
      refine List.mem_cons_of_mem _ (ih ?_)
      simpa [noPercent, apart] using mem
  | case3 a b rest _ ih =>
      refine List.mem_append_right _ (ih ?_)
      simpa [noPercent] using mem
  | case4 d rest _ ih =>
      rcases List.mem_cons.mp mem with rfl | later
      · exact List.mem_append_left _ written
      · exact List.mem_append_right _ (ih later)

/-- A text that is neither an address in brackets nor one in numbers is read as a name. -/
theorem Host.read?_of_toAscii? [Domains] {text domain : List Char}
    (unbracketed : text.head? ≠ some '[')
    (named : Domains.toAscii? (Text.Utf8.decodeLossy (decode text)) = some domain)
    (solid : domain.isEmpty = false) (wordy : endsInNumber domain = false) :
    Host.read? text = some (.name (String.ofList domain)) := by
  unfold Host.read?
  split
  · exact absurd rfl unbracketed
  · rw [named]
    dsimp only
    rw [solid, wordy]
    rfl

section Concat
variable {c : Char} (outer : IsOuter c)
include outer

/-- No host ends in a blank. -/
theorem Host.read?_concat [Domains] (text : List Char) : Host.read? (text ++ [c]) = none := by
  unfold Host.read?
  split
  · next rest bracket =>
      cases text with
      | nil => exact absurd (List.cons.inj bracket).1 (outer.ne (by decide))
      | cons d text =>
          obtain ⟨-, same⟩ := List.cons.inj bracket
          rw [← same, List.append_eq, List.getLast?_concat, if_neg]
          exact fun same => outer.ne (by decide) (Option.some.inj same)
  · have low : c.toNat < 0x80 := Nat.lt_of_le_of_lt outer (by decide)
    obtain ⟨octet, written, value⟩ := Text.Utf8.encode_ascii low
    have kept : octet ∈ decode (text ++ [c]) :=
      mem_decode outer.hexValue?_eq_none (outer.ne (by decide))
        (written ▸ List.mem_singleton_self _) (List.mem_append_right _ (List.mem_singleton_self c))
    have shown := Text.Utf8.mem_decodeLossy (value ▸ low) kept
    rw [value, Char.ofNat_toNat] at shown
    rw [Domains.toAscii?_of_blank _ c shown outer]

theorem port?_concat (scheme : Scheme) (text : List Char) : port? scheme (text ++ [c]) = none := by
  unfold port?
  have noDigits : (text ++ [c]).all Char.isDigit = false := by
    simp [outer.isDigit_eq_false]
  rw [if_neg (by simp), noDigits]
  rfl

theorem splitPort_concat (inside : Bool) (text : List Char) :
    (∃ port, (splitPort inside (text ++ [c])).2 = port ++ [c]) ∨
      ∃ host, (splitPort inside (text ++ [c])).1 = host ++ [c] := by
  induction text generalizing inside with
  | nil =>
      right
      refine ⟨[], ?_⟩
      rw [List.nil_append, splitPort, if_neg fun colon => outer.ne (by decide) colon.1]
      rfl
  | cons d text ih =>
      rw [List.cons_append, splitPort]
      split
      · exact .inl ⟨text, rfl⟩
      · dsimp only
        rcases ih (if d = '[' then true else if d = ']' then false else inside) with
          ⟨port, same⟩ | ⟨host, same⟩
        · exact .inl ⟨port, same⟩
        · exact .inr ⟨d :: host, by rw [same, List.cons_append]⟩

theorem withoutAccount_concat (text : List Char) :
    withoutAccount (text ++ [c]) = withoutAccount text ++ [c] := by
  have kept : (c :: text.reverse).takeWhile (· ≠ '@') = c :: text.reverse.takeWhile (· ≠ '@') :=
    List.takeWhile_cons_of_pos (decide_eq_true (outer.ne (by decide)))
  rw [withoutAccount, List.reverse_concat, kept, List.reverse_cons]
  rfl

end Concat

end ProfileClient.Url
