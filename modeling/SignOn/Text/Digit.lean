/-!
# Digits

Decimal and hexadecimal digits as values, hexadecimal numerals, and octets as pairs of hexadecimal
digits, which read back (`octetsOfHex?_hexOfOctets`).
-/

namespace SignOn.Text

/-- The value of a decimal digit. -/
def decimalDigit? (c : Char) : Option Nat :=
  if '0' ≤ c ∧ c ≤ '9' then some (c.toNat - '0'.toNat) else none

/-- The value of a hexadecimal digit of either case. -/
def hexDigit? (c : Char) : Option Nat :=
  if '0' ≤ c ∧ c ≤ '9' then some (c.toNat - '0'.toNat)
  else if 'a' ≤ c ∧ c ≤ 'f' then some (c.toNat - 'a'.toNat + 10)
  else if 'A' ≤ c ∧ c ≤ 'F' then some (c.toNat - 'A'.toNat + 10)
  else none

/-- The hexadecimal digit of a value below sixteen, in lower case. -/
def lowerHex (n : Nat) : Char :=
  if n < 10 then Char.ofNat ('0'.toNat + n) else Char.ofNat ('a'.toNat + (n - 10))

/-- The hexadecimal digit of a value below sixteen, in upper case. -/
def upperHex (n : Nat) : Char :=
  if n < 10 then Char.ofNat ('0'.toNat + n) else Char.ofNat ('A'.toNat + (n - 10))

/-- A number in hexadecimal without leading zeros, in lower case. -/
def hexNumeral (n : Nat) : List Char :=
  if n < 16 then [lowerHex n] else hexNumeral (n / 16) ++ [lowerHex (n % 16)]

/-- The number a list of hexadecimal digits stands for; other characters count as zero. -/
def ofHexDigits (cs : List Char) : Nat :=
  cs.foldl (fun n c => n * 16 + (hexDigit? c).getD 0) 0

/-- Two hexadecimal digits for each octet, in lower case. -/
def hexOfOctets (bs : List UInt8) : String :=
  String.ofList (bs.flatMap fun b => [lowerHex (b.toNat / 16), lowerHex (b.toNat % 16)])

/-- The octets that pairs of hexadecimal digits stand for. -/
def octetsOfHex? : List Char → Option (List UInt8)
  | [] => some []
  | [_] => none
  | a :: b :: rest => do
    let high ← hexDigit? a
    let low ← hexDigit? b
    let octets ← octetsOfHex? rest
    pure ((high * 16 + low).toUInt8 :: octets)

theorem hexDigit?_lowerHex {n : Nat} (h : n < 16) : hexDigit? (lowerHex n) = some n := by
  revert n
  decide

/-- Reading the hexadecimal form of octets gives them back. -/
theorem octetsOfHex?_hexOfOctets (bs : List UInt8) :
    octetsOfHex? (hexOfOctets bs).toList = some bs := by
  rw [hexOfOctets, String.toList_ofList]
  induction bs with
  | nil => rfl
  | cons b bs ih =>
    have hb := UInt8.toNat_lt b
    rw [List.flatMap_cons]
    simp only [List.cons_append, List.nil_append, octetsOfHex?, ih,
      hexDigit?_lowerHex (show b.toNat / 16 < 16 by omega),
      hexDigit?_lowerHex (show b.toNat % 16 < 16 by omega)]
    have hn : b.toNat / 16 * 16 + b.toNat % 16 = b.toNat := by omega
    change some ((b.toNat / 16 * 16 + b.toNat % 16).toUInt8 :: bs) = _
    rw [hn, Nat.toUInt8_eq, UInt8.ofNat_toNat]

end SignOn.Text
