import SignOn.Octets
import SignOn.Text.Digit

/-!
# Session keys

A server session is known by a random key: a UUID of version 4, written as 32 hexadecimal digits. Of
its sixteen octets all bits are random but six, which mark the version and the variant.
-/

namespace SignOn.SessionKey

/-- The number of hexadecimal digits of a key. -/
def length : Nat := 32

/-- The octets of the key that random octets give: version 4 in the high half of the seventh octet,
the variant in the two high bits of the ninth. -/
def mark (random : Vector UInt8 16) : Octets :=
  let octets := (random.set 6 (random[6] &&& 0x0F ||| 0x40)).set 8 (random[8] &&& 0x3F ||| 0x80)
  octets.toList

/-- The key that random octets give. -/
def ofRandom (random : Vector UInt8 16) : String := Text.hexOfOctets (mark random)

/-- Whether a text has the form of a key. -/
def isKey (s : String) : Bool :=
  let cs := s.toList
  cs.length = length && cs.all (fun c => c.isDigit || ('a' ≤ c && c ≤ 'f')) && cs[12]? = some '4' &&
    cs[16]?.any ['8', '9', 'a', 'b'].contains

end SignOn.SessionKey
