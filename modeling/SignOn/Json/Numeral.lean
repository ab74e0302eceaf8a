import SignOn.Json.Scan

/-!
# JSON numbers

A number is read in three parts: integer, fraction and exponent. Records hold no numbers, so a
number is either passed over or refused; it matters only where it ends and whether binary64
arithmetic can hold it.
-/

namespace SignOn.Json

/-- The value of an octet that is a decimal digit. -/
def digit? (b : UInt8) : Option Nat := Text.decimalDigit? (Char.ofNat b.toNat)

/-- Whether an octet is a decimal digit. -/
def isDigit (b : UInt8) : Bool := (digit? b).isSome

/-- The digits at the front, and the octets after them. -/
def digits (bs : Octets) : List Nat × Octets :=
  ((bs.takeWhile isDigit).filterMap digit?, bs.dropWhile isDigit)

/-- Digits of which there must be at least one; `early` is the fault of a text that ends before it.
-/
def someDigits (early : Fault) (bs : Octets) : Except Fault (List Nat × Octets) :=
  match bs with
  | [] => .error early
  | b :: _ => if isDigit b then .ok (digits bs) else .error .malformed

/-- A number without its sign. The exponent's own sign is kept apart. -/
structure Numeral where
  integer : List Nat
  fraction : List Nat := []
  negativeExponent : Bool := false
  exponent : List Nat := []

/-- The integer part: a zero stands alone. -/
def integerPart (early : Fault) (bs : Octets) : Except Fault (List Nat × Octets) :=
  match someDigits early bs with
  | .ok (0 :: _ :: _, _) => .error .malformed
  | result => result

/-- The digits of the fraction, if there is one. -/
def fractionPart (early : Fault) (bs : Octets) : Except Fault (List Nat × Octets) :=
  match bs with
  | b :: rest => if b = 0x2E then someDigits early rest else .ok ([], bs)
  | [] => .ok ([], [])

/-- The sign and the digits of the exponent, if there is one. -/
def exponentPart (early : Fault) (bs : Octets) : Except Fault (Bool × List Nat × Octets) :=
  match bs with
  | b :: rest =>
    if b = 0x65 ∨ b = 0x45 then
      let negative := rest.head? = some 0x2D
      match someDigits early (if negative ∨ rest.head? = some 0x2B then rest.tail else rest) with
      | .ok (digits, rest) => .ok (negative, digits, rest)
      | .error fault => .error fault
    else .ok (false, [], bs)
  | [] => .ok (false, [], [])

/-- A number after its sign, and the octets after it; `early` is the fault of a text that ends where
a digit has to follow. -/
def numeral (early : Fault) (bs : Octets) : Except Fault (Numeral × Octets) :=
  match integerPart early bs with
  | .error fault => .error fault
  | .ok (integer, rest) =>
    match fractionPart early rest with
    | .error fault => .error fault
    | .ok (fraction, rest) =>
      match exponentPart early rest with
      | .error fault => .error fault
      | .ok (negativeExponent, exponent, rest) =>
        .ok ({ integer, fraction, negativeExponent, exponent }, rest)

/-- The number that decimal digits stand for. -/
def ofDigits (ds : List Nat) : Nat := ds.foldl (fun n d => n * 10 + d) 0

/-- Digits appended to a number as long as it fits in 64 bits; with the number of digits left over.
-/
def absorb (start : Nat) (ds : List Nat) : Nat × Nat :=
  ds.foldl (fun (n, dropped) d =>
    if dropped = 0 ∧ n * 10 + d < UInt64.size then (n * 10 + d, 0) else (n, dropped + 1)) (start, 0)

/-- A number rounded to 53 significant bits, a tie to the even neighbour. -/
def roundToDouble (n : Nat) : Nat :=
  let excess := n.log2 + 1 - 53
  let quotient := n >>> excess
  let unit := 1 <<< excess
  let remainder := n % unit
  if 2 * remainder > unit ∨ (2 * remainder = unit ∧ quotient % 2 = 1) then
    (quotient + 1) <<< excess
  else quotient <<< excess

/-- The least number that binary64 arithmetic rounds to infinity. -/
def doubleLimit : Nat := (1 <<< 1024) - (1 <<< 970)

/-- Whether binary64 arithmetic holds the number as a finite one: the significand of at most 64 bits
times the power of ten, each rounded. -/
def Numeral.isFinite (n : Numeral) : Bool :=
  let (whole, droppedWhole) := absorb 0 n.integer
  let (significand, droppedFraction) := absorb whole n.fraction
  let exponent : Int := ofDigits n.exponent
  let scale := droppedWhole + droppedFraction - (n.fraction.length : Int) +
    if n.negativeExponent then -exponent else exponent
  significand = 0 || scale < 0 || (scale ≤ 308 &&
    roundToDouble significand * roundToDouble (Nat.pow 10 scale.toNat) < doubleLimit)

theorem length_digits_le (bs : Octets) : (digits bs).2.length ≤ bs.length :=
  (List.dropWhile_sublist _).length_le

theorem length_someDigits {early : Fault} {bs rest : Octets} {ds : List Nat}
    (h : someDigits early bs = .ok (ds, rest)) : rest.length < bs.length := by
  unfold someDigits at h
  split at h
  · cases h
  · next b bs =>
    split at h
    · next hb =>
      obtain ⟨-, rfl⟩ := Prod.mk.inj (Except.ok.inj h)
      have := length_digits_le bs
      simp only [digits, List.dropWhile_cons, hb, if_true, List.length_cons] at this ⊢
      omega
    · cases h

/-- A number has at least one digit. -/
theorem length_numeral {early : Fault} {bs rest : Octets} {n : Numeral}
    (h : numeral early bs = .ok (n, rest)) : rest.length < bs.length := by
  unfold numeral at h
  split at h
  · cases h
  next integer rest₁ hi =>
  split at h
  · cases h
  next fraction rest₂ hf =>
  split at h
  · cases h
  next negative exponent rest₃ he =>
  obtain ⟨-, rfl⟩ := Prod.mk.inj (Except.ok.inj h)
  have h₁ : rest₁.length < bs.length := by
    unfold integerPart at hi
    split at hi
    · cases hi
    · exact length_someDigits hi
  have h₂ : rest₂.length ≤ rest₁.length := by
    unfold fractionPart at hf
    split at hf
    · split at hf
      · have := length_someDigits hf
        simp only [List.length_cons]
        omega
      · obtain ⟨-, rfl⟩ := Prod.mk.inj (Except.ok.inj hf)
        exact Nat.le_refl _
    · obtain ⟨-, rfl⟩ := Prod.mk.inj (Except.ok.inj hf)
      exact Nat.le_refl _
  have h₃ : rest₃.length ≤ rest₂.length := by
    unfold exponentPart at he
    split at he
    · next b tail =>
      split at he
      · simp only at he
        split at he
        · next hd =>
          have := length_someDigits hd
          cases he
          have htail : tail.tail.length ≤ tail.length := by simp
          simp only [List.length_cons]
          split at this <;> omega
        · cases he
      · cases he
        exact Nat.le_refl _
    · cases he
      exact Nat.le_refl _
  omega

end SignOn.Json
