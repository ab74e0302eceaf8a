import SignOn.Idna.Domain
import SignOn.Proofs.Text.Ascii

/-!
# Domain names in ASCII

Whatever a domain name is mapped from, its ASCII form has only characters that a domain name may
hold, which are visible and separate nothing in a URL: Punycode writes letters, digits and hyphens
besides the ASCII characters of a label, and of those the forbidden ones do not pass.
-/

namespace SignOn.Idna

open Text (AsciiFrom)

/-- A text of ASCII characters that a domain name may hold. -/
def IsNameText (cs : List Char) : Prop := ∀ c ∈ cs, c.toNat < 0x80 ∧ isForbidden c = false

@[simp] theorem isNameText_nil : IsNameText [] := fun _ h => absurd h List.not_mem_nil

@[simp] theorem isNameText_append {cs ds : List Char} :
    IsNameText (cs ++ ds) ↔ IsNameText cs ∧ IsNameText ds := List.forall_mem_append

/-- A test of all characters at once. -/
theorem isNameText_of_all {cs : List Char}
    (h : cs.all (fun c => c.toNat < 0x80 && !isForbidden c) = true) : IsNameText cs := by
  intro c hc
  simpa using List.all_eq_true.mp h c hc

/-- What a domain name may hold is visible. -/
theorem IsNameText.asciiFrom {cs : List Char} (h : IsNameText cs) : AsciiFrom 0x21 cs := by
  intro c hc
  obtain ⟨hlow, hallowed⟩ := h c hc
  simp only [isForbidden, Bool.or_eq_false_iff, decide_eq_false_iff_not, beq_eq_false_iff_ne]
    at hallowed
  omega

/-- What a domain name may hold it may hold in lower case. -/
theorem IsNameText.map_toLower {cs : List Char} (h : IsNameText cs) :
    IsNameText (cs.map Char.toLower) := by
  have hlower : ∀ c : Char, c.toNat < 0x80 → isForbidden c = false →
      c.toLower.toNat < 0x80 ∧ isForbidden c.toLower = false := Text.forall_ascii (by decide)
  intro c hc
  obtain ⟨d, hd, rfl⟩ := List.mem_map.mp hc
  obtain ⟨hlow, hallowed⟩ := h d hd
  exact hlower d hlow hallowed

namespace Punycode

private theorem isNameText_digit {n : Nat} (h : n < 36) : IsNameText [digit n] := by
  have hall : ∀ m < 36, (digit m).toNat < 0x80 ∧ isForbidden (digit m) = false := by decide
  exact List.forall_mem_singleton.mpr (hall n h)

/-- Numerals are name texts. -/
theorem isNameText_numeral (bias place n : Nat) : IsNameText (numeral bias place n) := by
  induction n using Nat.strongRecOn generalizing place with
  | ind n ih =>
    have hpos := threshold_pos place bias
    have hle := threshold_le place bias
    rw [numeral]
    split
    · next h => exact isNameText_digit (by omega)
    · next h =>
      have hmod :=
        Nat.mod_lt (n - threshold place bias) (show 0 < 36 - threshold place bias by omega)
      have hdiv := Nat.div_le_self (n - threshold place bias) (36 - threshold place bias)
      rw [← List.singleton_append, isNameText_append]
      exact ⟨isNameText_digit (by omega), ih _ (by omega) _⟩

private theorem isNameText_visit {basics n : Nat} {s : State} (h : IsNameText s.digits)
    (c : Nat) : IsNameText (s.visit basics n c).digits := by
  rw [State.visit]
  split
  · exact h
  · split
    · exact isNameText_append.mpr ⟨h, isNameText_numeral _ _ _⟩
    · exact h

private theorem isNameText_encodeFrom {basics : Nat} {text : List Nat} {n : Nat} {s : State}
    (h : IsNameText s.digits) (others : List Nat) :
    IsNameText (encodeFrom basics text n s others).digits := by
  induction others generalizing n s with
  | nil => exact h
  | cons m others ih =>
    have hfold : ∀ (cs : List Nat) (s : State), IsNameText s.digits →
        IsNameText (cs.foldl (State.visit basics m) s).digits := by
      intro cs
      induction cs with
      | nil => exact fun _ hs => hs
      | cons c cs ihc => exact fun s hs => ihc _ (isNameText_visit hs c)
    exact ih (hfold text _ h)

/-- Punycode adds hyphens, letters and digits to the ASCII characters of a text. -/
theorem isNameText_encode {cs : List Char} (h : IsNameText (cs.filter (·.toNat < 0x80))) :
    IsNameText (encode cs) := by
  rw [encode]
  refine isNameText_append.mpr ⟨isNameText_append.mpr ⟨h, ?_⟩, ?_⟩
  · split
    · exact isNameText_nil
    · exact isNameText_of_all (by decide)
  · exact isNameText_encodeFrom isNameText_nil _

private theorem isNameText_of_value? {c : Char} {n : Nat} (h : value? c = some n) :
    IsNameText [c] := by
  have hc : ∀ a b : Char, a ≤ b ↔ a.toNat ≤ b.toNat := fun _ _ => Iff.rfl
  have hall : ∀ c : Char, c.toNat < 0x80 →
      (97 ≤ c.toNat ∧ c.toNat ≤ 122) ∨ (48 ≤ c.toNat ∧ c.toNat ≤ 57) → isForbidden c = false :=
    Text.forall_ascii (by decide)
  unfold value? at h
  simp only [hc, show 'a'.toNat = 97 from rfl, show 'z'.toNat = 122 from rfl,
    show '0'.toNat = 48 from rfl, show '9'.toNat = 57 from rfl] at h
  have hdigit : (97 ≤ c.toNat ∧ c.toNat ≤ 122) ∨ (48 ≤ c.toNat ∧ c.toNat ≤ 57) := by
    split at h
    · next hletter => exact .inl hletter
    · split at h
      · next hnumber => exact .inr hnumber
      · cases h
  have hlow : c.toNat < 0x80 := by omega
  exact List.forall_mem_singleton.mpr ⟨hlow, hall c hlow hdigit⟩

private theorem isNameText_of_readNumeral? {bias place weight n : Nat} {cs : List Char}
    {r : Nat × List Char} (h : readNumeral? bias place weight n cs = some r)
    (hrest : IsNameText r.2) : IsNameText cs := by
  induction cs generalizing place weight n with
  | nil => exact isNameText_nil
  | cons c cs ih =>
    simp only [readNumeral?, Option.bind_eq_bind, Option.bind_eq_some_iff] at h
    obtain ⟨d, hd, h⟩ := h
    rw [← List.singleton_append, isNameText_append]
    refine ⟨isNameText_of_value? hd, ?_⟩
    split at h
    · rw [← Option.some.inj h] at hrest
      exact hrest
    · exact ih h

/-- What is read as numerals is a name text, and the characters that are there already stay. -/
private theorem of_decodeFrom? {n i bias : Nat} {text cs decoded : List Char}
    (h : decodeFrom? n i bias text cs = some decoded) :
    IsNameText cs ∧ ∀ c ∈ text, c ∈ decoded := by
  fun_induction decodeFrom? n i bias text cs with
  | case1 n i bias text =>
    obtain rfl := Option.some.inj h
    exact ⟨isNameText_nil, fun _ hc => hc⟩
  | case2 => cases h
  | case3 n i bias text cs hne delta rest hread count n' i' hcode ih =>
    have hrest := ih h
    refine ⟨isNameText_of_readNumeral? hread hrest.1, fun c hc => hrest.2 c ?_⟩
    rw [← List.take_append_drop i' text, List.mem_append] at hc
    rw [List.mem_append, List.mem_cons]
    rcases hc with hc | hc
    · exact .inl hc
    · exact .inr (.inr hc)
  | case4 => cases h

private theorem mem_cutAtLastHyphen {cs : List Char} {c : Char} (hc : c ∈ cs) :
    c = '-' ∨ c ∈ (cutAtLastHyphen cs).1 ∨ c ∈ (cutAtLastHyphen cs).2 := by
  rw [cutAtLastHyphen]
  split
  · exact .inr (.inr hc)
  · -- what stands before the tail without hyphens ends in the hyphen
    have hsplit : cs = (cs.reverse.dropWhile (· ≠ '-')).reverse ++
        (cs.reverse.takeWhile (· ≠ '-')).reverse := by
      rw [← List.reverse_append, List.takeWhile_append_dropWhile, List.reverse_reverse]
    cases hd : cs.reverse.dropWhile (· ≠ '-') with
    | nil =>
      rw [hd] at hsplit
      rw [hsplit] at hc
      exact .inr (.inr hc)
    | cons d rest =>
      have hhyphen : d = '-' := by
        have := List.head?_dropWhile_not (· ≠ '-') cs.reverse
        rw [hd] at this
        simpa using this
      subst hhyphen
      rw [hd, List.reverse_cons, List.append_assoc] at hsplit
      have hlen := congrArg List.length hsplit
      rw [List.length_append, List.length_append, List.length_singleton] at hlen
      have htake : cs.take (cs.length -
          (cs.reverse.takeWhile (· ≠ '-')).reverse.length - 1) = rest.reverse := by
        rw [show cs.length - (cs.reverse.takeWhile (· ≠ '-')).reverse.length - 1 =
          rest.reverse.length by omega]
        conv_lhs => rw [hsplit]
        exact List.take_left
      rw [htake]
      rw [hsplit] at hc
      simp only [List.mem_append, List.mem_singleton] at hc
      rcases hc with hc | rfl | hc
      · exact .inr (.inl hc)
      · exact .inl rfl
      · exact .inr (.inr hc)

/-- Punycode that is read consists of ASCII characters of the text that it stands for, hyphens,
letters and digits. -/
theorem isNameText_of_decode? {cs decoded : List Char} (h : decode? cs = some decoded)
    (hdecoded : IsNameText (decoded.filter (·.toNat < 0x80))) : IsNameText cs := by
  rw [decode?] at h
  simp only at h
  split at h
  · next hbasics =>
    obtain ⟨hdigits, hkept⟩ := of_decodeFrom? h
    intro c hc
    rcases mem_cutAtLastHyphen hc with rfl | hc | hc
    · decide
    · apply hdecoded c
      rw [List.mem_filter]
      exact ⟨hkept c hc, List.all_eq_true.mp hbasics c hc⟩
    · exact hdigits c hc
  · cases h

end Punycode

private theorem isNameText_of_isWellFormed {label : List Char} (h : isWellFormed label = true) :
    IsNameText (label.filter (·.toNat < 0x80)) := by
  simp only [isWellFormed, Bool.and_eq_true, Bool.not_eq_true'] at h
  intro c hc
  obtain ⟨hm, hlow⟩ := List.mem_filter.mp hc
  have hallowed := List.any_eq_false.mp h.2 c hm
  exact ⟨by simpa using hlow, by simpa using hallowed⟩

/-- A label that is ASCII is a name text if its ASCII characters are. -/
private theorem isNameText_of_filter {label : List Char}
    (h : IsNameText (label.filter (·.toNat < 0x80)))
    (hall : label.all (·.toNat < 0x80) = true) : IsNameText label := by
  rwa [List.filter_eq_self.mpr fun c hc => List.all_eq_true.mp hall c hc] at h

/-- The ASCII form of a label that is accepted is a name text. -/
theorem isNameText_asciiLabel {label shown : List Char} (h : unicodeLabel? label = some shown) :
    IsNameText (asciiLabel label) := by
  have hmark : IsNameText "xn--".toList := isNameText_of_all (by decide)
  unfold unicodeLabel? at h
  split at h
  · next hace =>
    -- the Punycode of the label stands for the text that was checked
    have hprefix : "xn--".toList ++ label.drop 4 = label :=
      List.prefix_iff_eq_append.mp (List.isPrefixOf_iff_prefix.mp hace)
    simp only [Option.bind_eq_bind] at h
    split at h
    · cases h
    obtain ⟨decoded, hdecode, h⟩ := Option.bind_eq_some_iff.mp h
    split at h
    · cases h
    split at h
    · next hwell =>
      have hpunycode := Punycode.isNameText_of_decode? hdecode (isNameText_of_isWellFormed hwell.2)
      have hlabel : IsNameText label := by
        rw [← hprefix, isNameText_append]
        exact ⟨hmark, hpunycode⟩
      have hlow : label.all (·.toNat < 0x80) = true := by
        rw [List.all_eq_true]
        intro c hc
        exact decide_eq_true (hlabel c hc).1
      rw [asciiLabel, if_pos hlow]
      exact hlabel
    · cases h
  · split at h
    · next hwell =>
      have hfilter := isNameText_of_isWellFormed hwell
      rw [asciiLabel]
      split
      · next hall => exact isNameText_of_filter hfilter hall
      · exact isNameText_append.mpr ⟨hmark, Punycode.isNameText_encode hfilter⟩
    · cases h

/-- Every element that a search goes over is found. -/
theorem exists_of_mapM {α β : Type} {f : α → Option β} {xs : List α} {ys : List β}
    (h : xs.mapM f = some ys) : ∀ x ∈ xs, ∃ y, f x = some y := by
  induction xs generalizing ys with
  | nil => exact fun _ hx => absurd hx List.not_mem_nil
  | cons x xs ih =>
    rw [List.mapM_cons] at h
    simp only [Option.bind_eq_bind, Option.bind_eq_some_iff] at h
    obtain ⟨y, hy, ys', hys, -⟩ := h
    rw [List.forall_mem_cons]
    exact ⟨⟨y, hy⟩, ih hys⟩

/-- The ASCII form of a domain name is a name text. -/
theorem isNameText_toAscii? {cs name : List Char} (h : toAscii? cs = some name) :
    IsNameText name := by
  unfold toAscii? at h
  split at h
  · next hplain =>
    split at h
    · cases h
    · next hallowed =>
      obtain rfl := Option.some.inj h
      simp only [isPlain, Bool.and_eq_true] at hplain
      apply IsNameText.map_toLower
      intro c hc
      have hlow : c.toNat < 0x80 := of_decide_eq_true (List.all_eq_true.mp hplain.1 c hc)
      have hnot : isForbidden c = false := by
        have := List.any_eq_false.mp (Bool.eq_false_iff.mpr hallowed) c hc
        simpa using this
      exact ⟨hlow, hnot⟩
  · unfold mapDomain? at h
    simp only [Option.bind_eq_bind] at h
    obtain ⟨mapped, -, h⟩ := Option.bind_eq_some_iff.mp h
    obtain ⟨shown, hshown, h⟩ := Option.bind_eq_some_iff.mp h
    split at h
    · cases h
    · obtain rfl := Option.some.inj h
      refine (Text.forall_mem_joinWith_iff (isNameText_of_all (by decide))).mpr ?_
      intro piece hp
      obtain ⟨label, hl, rfl⟩ := List.mem_map.mp hp
      obtain ⟨s, hs⟩ := exists_of_mapM hshown label hl
      exact isNameText_asciiLabel hs

end SignOn.Idna
