import SignOn.Octets
import SignOn.Text.Digit

/-!
# Percent-encoding

An octet outside a class of kept octets is written as `%` and two upper-case hexadecimal digits.
Every class keeps ASCII only, so the written form is ASCII. Reading replaces each `%` that two
hexadecimal digits follow and leaves every other octet alone.
-/

namespace SignOn.Percent

/-- ASCII letters and digits. -/
def isAlphanumeric (b : UInt8) : Bool :=
  (0x30 ≤ b && b ≤ 0x39) || (0x41 ≤ b && b ≤ 0x5A) || (0x61 ≤ b && b ≤ 0x7A)

/-- The unreserved characters: letters, digits and `-`, `.`, `_`, `~`. -/
def isUnreserved (b : UInt8) : Bool :=
  isAlphanumeric b || b == 0x2D || b == 0x2E || b == 0x5F || b == 0x7E

/-- The visible characters of ASCII. -/
def isGraphic (b : UInt8) : Bool := 0x21 ≤ b && b ≤ 0x7E

/-- The written form of one octet. -/
def encodeOctet (keeps : UInt8 → Bool) (b : UInt8) : List Char :=
  if keeps b then [Char.ofNat b.toNat]
  else ['%', Text.upperHex (b.toNat / 16), Text.upperHex (b.toNat % 16)]

/-- The written form of a sequence of octets. -/
def encode (keeps : UInt8 → Bool) (bs : Octets) : List Char := bs.flatMap (encodeOctet keeps)

/-- The written form of a text, through its UTF-8 octets. -/
def encodeText (keeps : UInt8 → Bool) (s : String) : String :=
  String.ofList (encode keeps (Octets.ofText s))

/-- A text as a value inside a URL: only unreserved characters are kept. -/
def component (s : String) : String := encodeText isUnreserved s

/-- The value of an octet that is a hexadecimal digit. -/
def hexOctet? (b : UInt8) : Option Nat := Text.hexDigit? (Char.ofNat b.toNat)

/-- The octets with every escape replaced by the octet it stands for. -/
def decode : Octets → Octets
  | [] => []
  | 0x25 :: a :: b :: rest =>
    match hexOctet? a, hexOctet? b with
    | some high, some low => (high * 16 + low).toUInt8 :: decode rest
    | _, _ => 0x25 :: decode (a :: b :: rest)
  | b :: rest => b :: decode rest

end SignOn.Percent
