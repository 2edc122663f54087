import Mathlib.Data.List.TakeWhile
import ProfileClient.Proofs.Url.Host
/-!
The site that a request goes to: scheme, host and port. A path that is put behind a text leaves the
site of the text as it is, unless the text is a scheme with nothing but slashes after it: then the
path gives the host.
-/
namespace ProfileClient.Url

structure Site where
  scheme : Scheme
  host : Host
  port : Option Nat
deriving DecidableEq

def site (url : Url) : Site := ⟨url.scheme, url.host, url.port⟩

/-- Account, host and port: what stands between the slashes after the scheme and the path. -/
def authority (rest : List Char) : List Char :=
  (rest.dropWhile isSlash).takeWhile (!endsAuthority ·)

def site? [Domains] (scheme : Scheme) (authority : List Char) : Option Site :=
  let parts := splitPort false (withoutAccount authority)
  (Host.read? parts.1).bind fun host => (port? scheme parts.2).map fun port => ⟨scheme, host, port⟩

theorem site_read? [Domains] (text : List Char) : (read? text).map site =
    (scheme? (cleaned text)).bind fun named => site? named.1 (authority named.2) := by
  unfold read?
  rcases scheme? (cleaned text) with _ | ⟨scheme, rest⟩
  · rfl
  · simp only [Option.bind_eq_bind, Option.bind_some, site?, authority]
    cases Host.read? (splitPort false (withoutAccount
        ((rest.dropWhile isSlash).takeWhile (!endsAuthority ·)))).1 with
    | none => rfl
    | some host =>
        simp only [Option.bind_some]
        cases port? scheme (splitPort false (withoutAccount
            ((rest.dropWhile isSlash).takeWhile (!endsAuthority ·)))).2 <;> rfl

/-- The text cleaned at its start and inside, with any blanks left at its end. -/
def startCleaned (text : List Char) : List Char :=
  (text.dropWhile (·.toNat ≤ 0x20)).filter fun c => !(c == '\t' || c == '\n' || c == '\r')

def Solid (text : List Char) : Prop := ∀ c ∈ text, ¬ IsOuter c

theorem solid_of_all {text : List Char} (all : text.all (0x20 < ·.toNat) = true) : Solid text :=
  fun c mem => Nat.not_le_of_lt (of_decide_eq_true (List.all_eq_true.mp all c mem))

theorem dropWhile_outer_append {path : List Char} (solid : Solid path) (text : List Char) :
    (text ++ path).dropWhile (·.toNat ≤ 0x20) = text.dropWhile (·.toNat ≤ 0x20) ++ path := by
  rw [List.dropWhile_append]
  split
  · next blank =>
      rw [List.isEmpty_iff.mp blank, List.nil_append]
      cases path with
      | nil => rfl
      | cons c path =>
          exact List.dropWhile_cons_of_neg fun outer =>
            solid c List.mem_cons_self (of_decide_eq_true outer)
  · rfl

theorem Solid.filter {path : List Char} (solid : Solid path) :
    path.filter (fun c => !(c == '\t' || c == '\n' || c == '\r')) = path := by
  refine List.filter_eq_self.mpr fun c mem => ?_
  have inner := solid c mem
  have apart : c ≠ '\t' ∧ c ≠ '\n' ∧ c ≠ '\r' := by
    refine ⟨?_, ?_, ?_⟩ <;> rintro rfl <;> exact inner (by decide)
  simp [apart]

theorem cleaned_append {path : List Char} (solid : Solid path) (nonempty : path ≠ [])
    (text : List Char) : cleaned (text ++ path) = startCleaned text ++ path := by
  have ends : (text.dropWhile (·.toNat ≤ 0x20) ++ path).reverse.dropWhile (·.toNat ≤ 0x20) =
      (text.dropWhile (·.toNat ≤ 0x20) ++ path).reverse := by
    obtain ⟨front, c, rfl⟩ := (List.eq_nil_or_concat path).resolve_left nonempty
    rw [List.concat_eq_append] at solid ⊢
    rw [← List.append_assoc, List.reverse_concat]
    exact List.dropWhile_cons_of_neg fun outer =>
      solid c (List.mem_append_right _ (List.mem_singleton_self c)) (of_decide_eq_true outer)
  unfold cleaned startCleaned
  dsimp only
  rw [dropWhile_outer_append solid, ends, List.reverse_reverse, List.filter_append, solid.filter]

theorem exists_blanks (text : List Char) :
    ∃ blanks, startCleaned text = cleaned text ++ blanks ∧ ∀ c ∈ blanks, IsOuter c := by
  let left := text.dropWhile (·.toNat ≤ 0x20)
  refine ⟨(left.reverse.takeWhile (·.toNat ≤ 0x20)).reverse.filter
    fun c => !(c == '\t' || c == '\n' || c == '\r'), ?_, ?_⟩
  · unfold startCleaned cleaned
    dsimp only
    rw [← List.filter_append, ← List.reverse_append, List.takeWhile_append_dropWhile,
      List.reverse_reverse]
  · intro c mem
    have taken := List.mem_reverse.mp (List.mem_filter.mp mem).1
    exact of_decide_eq_true (List.all_eq_true.mp List.all_takeWhile c taken)

def schemeNamed? (name : List Char) : Option Scheme :=
  if name.map Char.toLower = "http".toList then some .http
  else if name.map Char.toLower = "https".toList then some .https
  else none

theorem scheme?_colon {name : List Char} (chars : ∀ c ∈ name, isSchemeChar c = true)
    (rest : List Char) :
    scheme? (name ++ ':' :: rest) = (schemeNamed? name).map fun scheme => (scheme, rest) := by
  unfold scheme? schemeNamed?
  rw [List.dropWhile_append_of_pos chars, List.takeWhile_append_of_pos chars,
    List.dropWhile_cons_of_neg (by decide), List.takeWhile_cons_of_neg (by decide),
    List.append_nil]
  dsimp only
  split
  · next rest' same =>
      cases same
      split
      · rfl
      · split <;> rfl
  · next other => exact absurd rfl (other rest)

theorem exists_name_of_scheme? {text rest : List Char} {scheme : Scheme}
    (named : scheme? text = some (scheme, rest)) :
    ∃ name, text = name ++ ':' :: rest ∧ (∀ c ∈ name, isSchemeChar c = true) ∧
      schemeNamed? name = some scheme := by
  have chars : ∀ c ∈ text.takeWhile isSchemeChar, isSchemeChar c = true :=
    List.all_eq_true.mp List.all_takeWhile
  have whole : text.takeWhile isSchemeChar ++ text.dropWhile isSchemeChar = text :=
    List.takeWhile_append_dropWhile
  cases after : text.dropWhile isSchemeChar with
  | nil => simp [scheme?, after] at named
  | cons c tail =>
      by_cases colon : c = ':'
      · subst colon
        rw [after] at whole
        rw [← whole, scheme?_colon chars, Option.map_eq_some_iff] at named
        obtain ⟨_, named, same⟩ := named
        cases same
        exact ⟨_, whole.symm, chars, named⟩
      · simp [scheme?, after, colon] at named

/-- A text that neither continues the name of a scheme nor starts with a colon. -/
def Apart (text : List Char) : Prop := ∀ c ∈ text.head?, isSchemeChar c = false ∧ c ≠ ':'

/-- The scheme is found before such a text, so it does not depend on it. -/
theorem scheme?_append {front text rest : List Char} {scheme : Scheme} (apart : Apart text)
    (named : scheme? (front ++ text) = some (scheme, rest)) :
    ∃ after, rest = after ++ text ∧
      ∀ text', scheme? (front ++ text') = some (scheme, after ++ text') := by
  obtain ⟨name, same, chars, known⟩ := exists_name_of_scheme? named
  obtain ⟨colon, rfl, split⟩ | ⟨colon, rfl, split⟩ := List.append_eq_append_iff.mp same
  · cases colon with
    | nil =>
        have head : text.head? = some ':' := by rw [split]; rfl
        exact absurd rfl (apart _ head).2
    | cons c colon =>
        have head : text.head? = some c := by rw [split]; rfl
        have held := chars c (List.mem_append_right _ List.mem_cons_self)
        cases (apart _ head).1.symm.trans held
  · cases colon with
    | nil =>
        have head : text.head? = some ':' := by rw [← List.nil_append text, ← split]; rfl
        exact absurd rfl (apart _ head).2
    | cons c after =>
        obtain ⟨rfl, rfl⟩ := List.cons.inj split
        refine ⟨after, rfl, fun text' => ?_⟩
        rw [List.append_assoc, List.cons_append, scheme?_colon chars, known]
        rfl

theorem IsOuter.isSchemeChar_eq_false {c : Char} (outer : IsOuter c) : isSchemeChar c = false := by
  have low : ∀ d : Char, 0x20 < d.toNat → ¬ d ≤ c := fun _ => outer.not_le
  have noUpper : c.isUpper = false := decide_eq_false fun upper => low 'A' (by decide) upper.1
  have noLower : c.isLower = false := by
    change (decide ('a' ≤ c) && decide (c ≤ 'z')) = false
    rw [decide_eq_false (low 'a' (by decide)), Bool.false_and]
  have noAlphanum : c.isAlphanum = false := by
    change ((c.isUpper || c.isLower) || c.isDigit) = false
    rw [noUpper, noLower, outer.isDigit_eq_false]
    rfl
  have apart : ∀ d : Char, 0x20 < d.toNat → c ≠ d := fun _ => outer.ne
  simp [isSchemeChar, noAlphanum, apart]

section Authority
variable {text blanks path : List Char}

theorem endsAuthority_of_isSlash {c : Char} (slash : isSlash c = true) :
    endsAuthority c = true := by
  rw [endsAuthority, slash]
  rfl

theorem IsOuter.endsAuthority_eq_false {c : Char} (outer : IsOuter c) :
    endsAuthority c = false := by
  have apart : ∀ d : Char, 0x20 < d.toNat → c ≠ d := fun _ => outer.ne
  simp [endsAuthority, isSlash, apart]

theorem IsOuter.not_isSlash {c : Char} (outer : IsOuter c) : ¬ isSlash c = true := by
  intro slash
  cases outer.endsAuthority_eq_false.symm.trans (endsAuthority_of_isSlash slash)

theorem authority_of_slashes (slashes : ∀ c ∈ text, isSlash c = true) (rest : List Char) :
    authority (text ++ rest) = authority rest := by
  rw [authority, List.dropWhile_append_of_pos slashes, authority]

/-- A slash ends the authority, once there is something in it. -/
theorem authority_append (some : ¬ ∀ c ∈ text, isSlash c = true)
    (slash : ∀ c ∈ path.head?, isSlash c = true) : authority (text ++ path) = authority text := by
  have none : path.takeWhile (!endsAuthority ·) = [] := by
    cases path with
    | nil => rfl
    | cons c path =>
        have ends := endsAuthority_of_isSlash (slash c rfl)
        exact List.takeWhile_cons_of_neg (by simp [ends])
  rw [authority, List.dropWhile_append, if_neg, List.takeWhile_append, none, List.append_nil,
    authority]
  · split
    · next whole => exact (List.takeWhile_prefix _).eq_of_length whole |>.symm
    · rfl
  · rw [List.isEmpty_iff, List.dropWhile_eq_nil_iff]
    exact some

end Authority

theorem site?_nil [Domains] (scheme : Scheme) : site? scheme [] = none := by
  have plain : IsPlain [] := ⟨by simp, by simp⟩
  have nameless : Host.read? [] = none := by
    simp [Host.read?, decode, Text.Utf8.decodeLossy, Text.Utf8.characters,
      Text.Utf8.charactersOnto, Domains.toAscii?_of_isPlain [] plain]
  simp [site?, withoutAccount, splitPort, nameless]

theorem site?_concat [Domains] {c : Char} (outer : IsOuter c) (scheme : Scheme) (text : List Char) :
    site? scheme (text ++ [c]) = none := by
  unfold site?
  rw [withoutAccount_concat outer]
  dsimp only
  rcases splitPort_concat outer false (withoutAccount text) with ⟨port, same⟩ | ⟨host, same⟩
  · rw [same, port?_concat outer]
    cases Host.read? _ <;> rfl
  · rw [same, Host.read?_concat outer]
    rfl

/-- Blanks leave no site in the authority that they stand in. -/
theorem authority_append_blanks [Domains] {text blanks : List Char} {scheme : Scheme} {site : Site}
    (outer : ∀ c ∈ blanks, IsOuter c)
    (found : site? scheme (authority (text ++ blanks)) = some site) :
    authority (text ++ blanks) = authority text := by
  have noSlash : blanks.dropWhile isSlash = blanks := by
    cases blanks with
    | nil => rfl
    | cons c blanks => exact List.dropWhile_cons_of_neg (outer c List.mem_cons_self).not_isSlash
  have within : blanks.takeWhile (!endsAuthority ·) = blanks :=
    List.takeWhile_eq_self_iff.mpr fun c mem => by rw [(outer c mem).endsAuthority_eq_false]; rfl
  have body : (text ++ blanks).dropWhile isSlash = text.dropWhile isSlash ++ blanks := by
    rw [List.dropWhile_append]
    split
    · next slashes => rw [noSlash, List.isEmpty_iff.mp slashes, List.nil_append]
    · rfl
  have split : authority (text ++ blanks) =
      if (authority text).length = (text.dropWhile isSlash).length
        then text.dropWhile isSlash ++ blanks else authority text := by
    rw [authority, body, List.takeWhile_append, within]
    rfl
  rw [split] at found ⊢
  split at found
  · next whole =>
      obtain rfl | ⟨front, c, rfl⟩ := List.eq_nil_or_concat blanks
      · rw [List.append_nil, if_pos whole]
        exact ((List.takeWhile_prefix _).eq_of_length whole).symm
      · rw [List.concat_eq_append, ← List.append_assoc,
          site?_concat (outer c (by simp))] at found
        cases found
  · next stops => rw [if_neg stops]

/-- A scheme with nothing but slashes after it. -/
def Bare (text : List Char) : Prop :=
  ∃ scheme rest, scheme? (cleaned text) = some (scheme, rest) ∧ ∀ c ∈ rest, isSlash c = true

section Seam
variable {blanks path text : List Char}

theorem forall_isSlash_replicate (n : Nat) : ∀ c ∈ List.replicate n '/', isSlash c = true := by
  intro c mem
  rw [(List.mem_replicate.mp mem).2]
  rfl

theorem solid_replicate (n : Nat) : Solid (List.replicate n '/') := by
  intro c mem
  rw [(List.mem_replicate.mp mem).2]
  decide

/-- What a text has in common with and without its last slashes, whatever stands behind it. -/
theorem exists_seam (text : List Char) (slashes : Nat) :
    ∃ front blanks, cleaned (text ++ List.replicate slashes '/') =
        front ++ List.replicate slashes '/' ∧ (∀ c ∈ blanks, IsOuter c) ∧
      ∀ path, Solid path → path ≠ [] → cleaned (text ++ path) = front ++ (blanks ++ path) := by
  cases slashes with
  | zero =>
      obtain ⟨blanks, same, outer⟩ := exists_blanks text
      refine ⟨cleaned text, blanks, ?_, outer, ?_⟩
      · rw [List.replicate_zero, List.append_nil, List.append_nil]
      · intro path solid nonempty
        rw [cleaned_append solid nonempty, same, List.append_assoc]
  | succ n =>
      exact ⟨startCleaned text, [], cleaned_append (solid_replicate _) (by simp) text, by simp,
        fun path solid nonempty => cleaned_append solid nonempty text⟩

theorem apart_append (outer : ∀ c ∈ blanks, IsOuter c) (slash : path.head? = some '/') :
    Apart (blanks ++ path) := by
  intro c head
  cases blanks with
  | nil =>
      rw [List.nil_append, slash] at head
      cases head
      decide
  | cons b blanks =>
      cases head
      have blank := outer c List.mem_cons_self
      exact ⟨blank.isSchemeChar_eq_false, blank.ne (by decide)⟩

theorem not_forall_isSlash_of_outer (outer : ∀ c ∈ blanks, IsOuter c) (nonempty : blanks ≠ []) :
    ¬ ∀ c ∈ blanks, isSlash c = true := by
  intro slashes
  obtain ⟨c, tail, rfl⟩ := List.exists_cons_of_ne_nil nonempty
  exact (outer c List.mem_cons_self).not_isSlash (slashes c List.mem_cons_self)

theorem isSlash_of_head? (slash : path.head? = some '/') : ∀ c ∈ path.head?, isSlash c = true := by
  rw [slash]
  rintro _ ⟨⟩
  rfl

/-- Behind nothing but slashes a path gives the site, and no blanks stand before it. -/
theorem site?_authority_of_slashes [Domains] {scheme : Scheme} {site : Site}
    (outer : ∀ c ∈ blanks, IsOuter c) (slash : path.head? = some '/')
    (found : site? scheme (authority (blanks ++ path)) = some site) :
    site? scheme (authority path) = some site := by
  by_cases empty : blanks = []
  · rwa [empty] at found
  · rw [authority_append (not_forall_isSlash_of_outer outer empty) (isSlash_of_head? slash),
      ← List.nil_append blanks] at found
    rw [authority_append_blanks outer found] at found
    cases (site?_nil scheme).symm.trans found

/-- Behind anything but slashes a path leaves the authority, and so do slashes. -/
theorem site?_authority_append [Domains] {after : List Char} {scheme : Scheme} {site : Site}
    (whole : ¬ ∀ c ∈ after, isSlash c = true) (outer : ∀ c ∈ blanks, IsOuter c)
    (slash : path.head? = some '/')
    (found : site? scheme (authority (after ++ (blanks ++ path))) = some site) (slashes : Nat) :
    site? scheme (authority (after ++ List.replicate slashes '/')) = some site := by
  have more : ¬ ∀ c ∈ after ++ blanks, isSlash c = true :=
    fun slashed => whole fun c mem => slashed c (List.mem_append_left _ mem)
  rw [← List.append_assoc, authority_append more (isSlash_of_head? slash)] at found
  have starts : ∀ c ∈ (List.replicate slashes '/').head?, isSlash c = true :=
    fun c head => forall_isSlash_replicate slashes c (List.mem_of_head? head)
  rw [authority_append whole starts, ← authority_append_blanks outer found]
  exact found

/-- A path behind a text goes to the site of the text. Behind a bare scheme, which has no site, it
gives the site itself. -/
theorem site_append [Domains] {site' : Site} (slashes : Nat) (slash : path.head? = some '/')
    (solid : Solid path) (found : (read? (text ++ path)).map site = some site') :
    (¬ Bare (text ++ List.replicate slashes '/') →
        (read? (text ++ List.replicate slashes '/')).map site = some site') ∧
      (Bare (text ++ List.replicate slashes '/') →
        read? (text ++ List.replicate slashes '/') = none ∧
          ∃ scheme, site? scheme (authority path) = some site') := by
  obtain ⟨front, blanks, base, outer, whole⟩ := exists_seam text slashes
  have nonempty : path ≠ [] := by
    rintro rfl
    cases slash
  rw [site_read?, whole path solid nonempty] at found
  obtain ⟨⟨scheme, rest⟩, named, found⟩ := Option.bind_eq_some_iff.mp found
  obtain ⟨after, rfl, known⟩ := scheme?_append (apart_append outer slash) named
  have read : (read? (text ++ List.replicate slashes '/')).map site =
      site? scheme (authority (after ++ List.replicate slashes '/')) := by
    rw [site_read?, base, known]
    rfl
  have bare_iff : Bare (text ++ List.replicate slashes '/') ↔ ∀ c ∈ after, isSlash c = true := by
    unfold Bare
    rw [base, known]
    constructor
    · rintro ⟨_, _, ⟨⟩, slashed⟩ c mem
      exact slashed c (List.mem_append_left _ mem)
    · intro slashed
      exact ⟨_, _, rfl, fun c mem =>
        (List.mem_append.mp mem).elim (slashed c) (forall_isSlash_replicate slashes c)⟩
  rw [bare_iff]
  refine ⟨?_, ?_⟩
  · intro other
    rw [read]
    exact site?_authority_append other outer slash found slashes
  · intro slashed
    dsimp only at found
    rw [authority_of_slashes slashed] at found
    have nowhere : authority (List.replicate slashes '/') = [] := by
      rw [← List.append_nil (List.replicate _ _),
        authority_of_slashes (forall_isSlash_replicate slashes)]
      rfl
    rw [authority_of_slashes slashed, nowhere, site?_nil] at read
    exact ⟨Option.map_eq_none_iff.mp read, scheme, site?_authority_of_slashes outer slash found⟩

end Seam

end ProfileClient.Url
