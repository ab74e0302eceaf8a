import SignOn.Text.Digit
import SignOn.Text.Split

/-!
# Writing JSON

Records are written without white space, as objects with their fields in order; an absent text is
`null`. Inside a string only the quote, the backslash and the controls of ASCII are escaped.
-/

namespace SignOn.Json

/-- A character inside a string. -/
def escapeChar (c : Char) : List Char :=
  if c = '"' then ['\\', '"']
  else if c = '\\' then ['\\', '\\']
  else if c = '\x08' then ['\\', 'b']
  else if c = '\x0c' then ['\\', 'f']
  else if c = '\n' then ['\\', 'n']
  else if c = '\r' then ['\\', 'r']
  else if c = '\t' then ['\\', 't']
  else if c.toNat < 0x20 then
    ['\\', 'u', '0', '0', Text.lowerHex (c.toNat / 16), Text.lowerHex (c.toNat % 16)]
  else [c]

/-- A string with its quotes. -/
def writeString (s : String) : List Char := '"' :: s.toList.flatMap escapeChar ++ ['"']

/-- A text that may be absent. -/
def writeOption : Option String → List Char
  | some s => writeString s
  | none => "null".toList

/-- A member of an object. -/
def writeMember (member : String × Option String) : List Char :=
  writeString member.1 ++ ':' :: writeOption member.2

/-- An object with its members in order. -/
def writeRecord (members : List (String × Option String)) : String :=
  String.ofList ('\x7b' :: Text.joinWith [','] (members.map writeMember) ++ ['\x7d'])

end SignOn.Json
