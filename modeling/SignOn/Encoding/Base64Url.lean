import SignOn.Octets

/-!
# Unpadded base64url

Three octets become four digits of the alphabet `A–Z a–z 0–9 - _`; one or two octets left over
become two or three digits whose unused low bits are zero. Reading accepts exactly what writing
produces (`decode?_eq_some_iff`): no padding, no foreign digit, no stray low bits.
-/

namespace SignOn.Base64Url

/-- The digit of a value below sixty-four. -/
def digit (n : Nat) : Char :=
  if n < 26 then Char.ofNat ('A'.toNat + n)
  else if n < 52 then Char.ofNat ('a'.toNat + (n - 26))
  else if n < 62 then Char.ofNat ('0'.toNat + (n - 52))
  else if n = 62 then '-'
  else '_'

/-- The value of a digit. -/
def value? (c : Char) : Option Nat :=
  if 'A' ≤ c ∧ c ≤ 'Z' then some (c.toNat - 'A'.toNat)
  else if 'a' ≤ c ∧ c ≤ 'z' then some (c.toNat - 'a'.toNat + 26)
  else if '0' ≤ c ∧ c ≤ '9' then some (c.toNat - '0'.toNat + 52)
  else if c = '-' then some 62
  else if c = '_' then some 63
  else none

/-- The digits of a sequence of octets. -/
def encode : Octets → List Char
  | a :: b :: c :: rest =>
    digit (a.toNat / 4) :: digit (a.toNat % 4 * 16 + b.toNat / 16) ::
      digit (b.toNat % 16 * 4 + c.toNat / 64) :: digit (c.toNat % 64) :: encode rest
  | [a, b] =>
    [digit (a.toNat / 4), digit (a.toNat % 4 * 16 + b.toNat / 16), digit (b.toNat % 16 * 4)]
  | [a] => [digit (a.toNat / 4), digit (a.toNat % 4 * 16)]
  | [] => []

/-- The octets whose digits are given. -/
def decode? : List Char → Option Octets
  | p :: q :: r :: s :: rest => do
    let p ← value? p
    let q ← value? q
    let r ← value? r
    let s ← value? s
    let octets ← decode? rest
    pure ((p * 4 + q / 16).toUInt8 :: (q % 16 * 16 + r / 4).toUInt8 :: (r % 4 * 64 + s).toUInt8 ::
      octets)
  | [p, q, r] => do
    let p ← value? p
    let q ← value? q
    let r ← value? r
    if r % 4 = 0 then pure [(p * 4 + q / 16).toUInt8, (q % 16 * 16 + r / 4).toUInt8] else none
  | [p, q] => do
    let p ← value? p
    let q ← value? q
    if q % 16 = 0 then pure [(p * 4 + q / 16).toUInt8] else none
  | [_] => none
  | [] => some []

theorem value?_digit {n : Nat} (h : n < 64) : value? (digit n) = some n := by
  revert n
  decide

theorem value?_eq_some {c : Char} {n : Nat} (h : value? c = some n) : n < 64 ∧ c = digit n := by
  have hc : ∀ a b : Char, a ≤ b ↔ a.toNat ≤ b.toNat := fun _ _ => Iff.rfl
  unfold value? at h
  simp only [hc] at h
  have hofNat : Char.ofNat c.toNat = c := Char.ofNat_toNat c
  have hv : (∃ m, m < 26 ∧ c.toNat = 65 + m ∧ n = m) ∨
      (∃ m, m < 26 ∧ c.toNat = 97 + m ∧ n = m + 26) ∨
      (∃ m, m < 10 ∧ c.toNat = 48 + m ∧ n = m + 52) ∨ (c = '-' ∧ n = 62) ∨ (c = '_' ∧ n = 63) := by
    have h1 : 'A'.toNat = 65 := rfl
    have h2 : 'Z'.toNat = 90 := rfl
    have h3 : 'a'.toNat = 97 := rfl
    have h4 : 'z'.toNat = 122 := rfl
    have h5 : '0'.toNat = 48 := rfl
    have h6 : '9'.toNat = 57 := rfl
    rw [h1, h2, h3, h4, h5, h6] at h
    split at h
    · next hr => exact .inl ⟨c.toNat - 65, by omega, by omega, (Option.some.inj h).symm⟩
    split at h
    · next hr => exact .inr (.inl ⟨c.toNat - 97, by omega, by omega, (Option.some.inj h).symm⟩)
    split at h
    · next hr =>
      exact .inr (.inr (.inl ⟨c.toNat - 48, by omega, by omega, (Option.some.inj h).symm⟩))
    split at h
    · next hr => exact .inr (.inr (.inr (.inl ⟨hr, (Option.some.inj h).symm⟩)))
    split at h
    · next hr => exact .inr (.inr (.inr (.inr ⟨hr, (Option.some.inj h).symm⟩)))
    · exact absurd h (by simp)
  rcases hv with ⟨m, hm, hcm, rfl⟩ | ⟨m, hm, hcm, rfl⟩ | ⟨m, hm, hcm, rfl⟩ | ⟨rfl, rfl⟩ | ⟨rfl, rfl⟩
  · refine ⟨by omega, ?_⟩
    rw [← hofNat, hcm, digit, if_pos hm]
    rfl
  · refine ⟨by omega, ?_⟩
    rw [← hofNat, hcm, digit, if_neg (by omega), if_pos (by omega), Nat.add_sub_cancel]
    rfl
  · refine ⟨by omega, ?_⟩
    rw [← hofNat, hcm, digit, if_neg (by omega), if_neg (by omega), if_pos (by omega),
      Nat.add_sub_cancel]
    rfl
  · exact ⟨by omega, rfl⟩
  · exact ⟨by omega, rfl⟩

private theorem octet_eq (a : UInt8) (n : Nat) (h : n = a.toNat) : n.toUInt8 = a := by
  rw [h, Nat.toUInt8_eq, UInt8.ofNat_toNat]

private theorem toNat_octet {n : Nat} (h : n < 256) : n.toUInt8.toNat = n := by
  rw [Nat.toUInt8_eq, UInt8.toNat_ofNat_of_lt' h]

/-- Reading gives back what was written. -/
theorem decode?_encode (bs : Octets) : decode? (encode bs) = some bs := by
  fun_induction encode bs with
  | case1 a b c rest ih =>
    have ha := a.toNat_lt
    have hb := b.toNat_lt
    have hc := c.toNat_lt
    simp only [decode?, value?_digit (show a.toNat / 4 < 64 by omega),
      value?_digit (show a.toNat % 4 * 16 + b.toNat / 16 < 64 by omega),
      value?_digit (show b.toNat % 16 * 4 + c.toNat / 64 < 64 by omega),
      value?_digit (show c.toNat % 64 < 64 by omega), ih]
    change some (_ :: _ :: _ :: rest) = _
    rw [octet_eq a _ (by omega), octet_eq b _ (by omega), octet_eq c _ (by omega)]
  | case2 a b =>
    have ha := a.toNat_lt
    have hb := b.toNat_lt
    simp only [decode?, value?_digit (show a.toNat / 4 < 64 by omega),
      value?_digit (show a.toNat % 4 * 16 + b.toNat / 16 < 64 by omega),
      value?_digit (show b.toNat % 16 * 4 < 64 by omega)]
    change (if b.toNat % 16 * 4 % 4 = 0 then some [_, _] else none) = _
    rw [if_pos (by omega), octet_eq a _ (by omega), octet_eq b _ (by omega)]
  | case3 a =>
    have ha := a.toNat_lt
    simp only [decode?, value?_digit (show a.toNat / 4 < 64 by omega),
      value?_digit (show a.toNat % 4 * 16 < 64 by omega)]
    change (if a.toNat % 4 * 16 % 16 = 0 then some [_] else none) = _
    rw [if_pos (by omega), octet_eq a _ (by omega)]
  | case4 => rfl

/-- Whatever can be read is the written form of what was read. -/
theorem eq_encode_of_decode? {cs : List Char} {bs : Octets} (h : decode? cs = some bs) :
    cs = encode bs := by
  fun_induction decode? cs generalizing bs with
  | case1 p q r s rest ih =>
    simp only [Option.bind_eq_bind, Option.bind_eq_some_iff, Option.pure_def,
      Option.some.injEq] at h
    obtain ⟨p', hp, q', hq, r', hr, s', hs, tail, ht, rfl⟩ := h
    obtain ⟨hp, rfl⟩ := value?_eq_some hp
    obtain ⟨hq, rfl⟩ := value?_eq_some hq
    obtain ⟨hr, rfl⟩ := value?_eq_some hr
    obtain ⟨hs, rfl⟩ := value?_eq_some hs
    rw [encode, ← ih ht, toNat_octet (by omega), toNat_octet (by omega), toNat_octet (by omega),
      show (p' * 4 + q' / 16) / 4 = p' by omega,
      show (p' * 4 + q' / 16) % 4 * 16 + (q' % 16 * 16 + r' / 4) / 16 = q' by omega,
      show (q' % 16 * 16 + r' / 4) % 16 * 4 + (r' % 4 * 64 + s') / 64 = r' by omega,
      show (r' % 4 * 64 + s') % 64 = s' by omega]
  | case2 p q r =>
    simp only [Option.bind_eq_bind, Option.bind_eq_some_iff] at h
    obtain ⟨p', hp, q', hq, r', hr, h⟩ := h
    split at h
    · next hz =>
      simp only [Option.pure_def, Option.some.injEq] at h
      subst h
      obtain ⟨hp, rfl⟩ := value?_eq_some hp
      obtain ⟨hq, rfl⟩ := value?_eq_some hq
      obtain ⟨hr, rfl⟩ := value?_eq_some hr
      rw [encode, toNat_octet (by omega), toNat_octet (by omega),
        show (p' * 4 + q' / 16) / 4 = p' by omega,
        show (p' * 4 + q' / 16) % 4 * 16 + (q' % 16 * 16 + r' / 4) / 16 = q' by omega,
        show (q' % 16 * 16 + r' / 4) % 16 * 4 = r' by omega]
    · exact absurd h (by simp)
  | case3 p q =>
    simp only [Option.bind_eq_bind, Option.bind_eq_some_iff] at h
    obtain ⟨p', hp, q', hq, h⟩ := h
    split at h
    · next hz =>
      simp only [Option.pure_def, Option.some.injEq] at h
      subst h
      obtain ⟨hp, rfl⟩ := value?_eq_some hp
      obtain ⟨hq, rfl⟩ := value?_eq_some hq
      rw [encode, toNat_octet (by omega), show (p' * 4 + q' / 16) / 4 = p' by omega,
        show (p' * 4 + q' / 16) % 4 * 16 = q' by omega]
    · exact absurd h (by simp)
  | case4 => exact absurd h (by simp)
  | case5 =>
    obtain rfl := Option.some.inj h
    rfl

/-- Reading accepts exactly the written forms. -/
theorem decode?_eq_some_iff {cs : List Char} {bs : Octets} :
    decode? cs = some bs ↔ cs = encode bs :=
  ⟨eq_encode_of_decode?, fun h => h ▸ decode?_encode bs⟩

end SignOn.Base64Url
