import SignOn.Idna.Context
import SignOn.Idna.Mapping
import SignOn.Idna.Punycode
import SignOn.Octets

/-!
# Domain names in ASCII

A domain name is mapped to lower case and compatibility forms, cut into labels, and each label with
characters beyond ASCII is written in Punycode after `xn--`. Labels that already have that form must
decode to one that would be written so. Names of plain ASCII take a short way without tables.
-/

namespace SignOn.Idna

/-- The ASCII characters that no domain name of a URL may hold. -/
def isForbidden (c : Char) : Bool :=
  c.toNat ≤ 0x20 || c.toNat == 0x7F || "%#/:<>?@[\\]^|".toList.contains c

/-- Whether a label claims to be written in Punycode. -/
def hasAceMark (label : List Char) : Bool := "xn--".toList.isPrefixOf label

/-- The length up to which a label with characters beyond ASCII is read. -/
def maxLabel : Nat := 1000

/-- The length up to which the Punycode of a label is read. -/
def maxPunycode : Nat := 2000

/-- Whether a label is ASCII or short enough. -/
def isShort (label : List Char) : Bool :=
  label.all (·.toNat < 0x80) || label.length ≤ maxLabel

/-- Whether the characters of a label are in order, directions aside. -/
def isWellFormed (label : List Char) : Bool :=
  isShort label && label.all isKept && !label.contains '.' && !beginsWithMark label &&
    keepsJoiners [] label && !label.any isForbidden

/-- The label behind a mapped label: itself, or what its Punycode stands for. -/
def unicodeLabel? (label : List Char) : Option (List Char) :=
  if hasAceMark label then do
    let punycode := label.drop 4
    if maxPunycode < punycode.length then none
    let decoded ← Punycode.decode? punycode
    if decoded.all (·.toNat < 0x80) then none
    if Unicode.normalize decoded = decoded ∧ isWellFormed decoded then some decoded else none
  else if isWellFormed label then some label
  else none

/-- A label in ASCII. -/
def asciiLabel (label : List Char) : List Char :=
  if label.all (·.toNat < 0x80) then label else "xn--".toList ++ Punycode.encode label

/-- A domain name in ASCII, by way of the tables. -/
def mapDomain? (cs : List Char) : Option (List Char) := do
  let mapped ← cs.mapM mapChar?
  let labels := Text.splitOn '.' (Unicode.normalize mapped.flatten)
  let shown ← labels.mapM unicodeLabel?
  if shown.any (·.any isRightward) ∧ ¬ shown.all keepsDirection then none
  some (Text.joinWith ['.'] (labels.map asciiLabel))

/-- Whether a name is ASCII and has no label in Punycode. -/
def isPlain (cs : List Char) : Bool :=
  cs.all (·.toNat < 0x80) && (Text.splitOn '.' cs).all fun label =>
    !hasAceMark (label.map Char.toLower)

/-- A domain name in ASCII. -/
def toAscii? (cs : List Char) : Option (List Char) :=
  if isPlain cs then if cs.any isForbidden then none else some (cs.map Char.toLower)
  else mapDomain? cs

end SignOn.Idna
