import SignOn.Encoding.Percent

/-!
# Form encoding

A list of named values is written as `name=value` pairs joined by `&`, with `+` for the space and
percent-encoding for everything outside letters, digits and `*-._`. Reading skips empty pairs, takes
a pair without `=` as a name with an empty value and replaces ill-formed UTF-8.
-/

namespace SignOn.Form

/-- The characters written as themselves. -/
def keeps (b : UInt8) : Bool :=
  Percent.isAlphanumeric b || b == 0x2A || b == 0x2D || b == 0x2E || b == 0x5F

/-- The written form of one octet. -/
def encodeOctet (b : UInt8) : List Char := if b = 0x20 then ['+'] else Percent.encodeOctet keeps b

/-- The written form of a name or a value. -/
def encodeText (s : String) : List Char := (Octets.ofText s).flatMap encodeOctet

/-- The written form of a list of named values. -/
def encode (pairs : List (String × String)) : String :=
  String.ofList (Text.joinWith ['&'] (pairs.map fun (name, value) =>
    encodeText name ++ '=' :: encodeText value))

/-- The text that a written name or value stands for. -/
def decodeText (cs : List Char) : String :=
  Octets.lossyText (Percent.decode (Octets.ofText (String.ofList (cs.map fun c =>
    if c = '+' then ' ' else c))))

/-- The name and the value of one written pair. -/
def decodePair (cs : List Char) : String × String :=
  match Text.cutAt '=' cs with
  | some (name, value) => (decodeText name, decodeText value)
  | none => (decodeText cs, "")

/-- The named values of a form text, in their order. -/
def decode (s : String) : List (String × String) :=
  ((Text.splitOn '&' s.toList).filter (· ≠ [])).map decodePair

/-- The value of a name that may occur at most once: `none` when it occurs again, `some none` when
it does not occur. -/
def single? (name : String) (pairs : List (String × String)) : Option (Option String) :=
  match pairs.filter (·.1 = name) with
  | [] => some none
  | [pair] => some (some pair.2)
  | _ => none

end SignOn.Form
