import SignOn.Octets

/-!
# Header field values

A field value is a sequence of octets without controls other than the tab. It is *text* when all its
octets are visible ASCII, the space or the tab; only text values are ever interpreted.
-/

namespace SignOn.Http

/-- Whether an octet may stand in a field value. -/
def isFieldOctet (b : UInt8) : Bool := (0x20 ≤ b && b ≠ 0x7F) || b = 0x09

/-- Whether an octet may stand in a text value. -/
def isTextOctet (b : UInt8) : Bool := (0x20 ≤ b && b < 0x7F) || b = 0x09

/-- A header field value. -/
structure FieldValue where
  octets : Octets
  legal : octets.all isFieldOctet = true

namespace FieldValue

/-- The field value with the UTF-8 octets of a text, if they may stand in one. -/
def ofText? (s : String) : Option FieldValue :=
  if h : (Octets.ofText s).all isFieldOctet = true then some ⟨Octets.ofText s, h⟩ else none

/-- Whether a value is text. -/
def isText (v : FieldValue) : Bool := v.octets.all isTextOctet

/-- The text of a value that is text. -/
def text? (v : FieldValue) : Option String :=
  if v.isText then some (String.ofList (v.octets.map fun b => Char.ofNat b.toNat)) else none

@[ext]
theorem ext {v w : FieldValue} (h : v.octets = w.octets) : v = w := by
  cases v
  cases w
  simp_all

theorem ofText?_eq_some_iff {s : String} {v : FieldValue} :
    ofText? s = some v ↔ v.octets = Octets.ofText s := by
  unfold ofText?
  split
  · next h =>
    constructor
    · intro he
      rw [← Option.some.inj he]
    · intro he
      exact congrArg some (ext he.symm)
  · next h =>
    constructor
    · intro he
      exact absurd he (by simp)
    · intro he
      exact absurd (he ▸ v.legal) h

/-- A value that is text has a text, and no other value has one. -/
theorem text?_eq_none_iff {v : FieldValue} : v.text? = none ↔ v.isText = false := by
  unfold text?
  split <;> simp_all

end FieldValue

end SignOn.Http
