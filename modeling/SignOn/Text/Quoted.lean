import SignOn.Text.Digit
import SignOn.Text.Split
import SignOn.Unicode.Printable

/-!
# Diagnostic text

Diagnostics show a text between double quotes with escapes for quotes, backslashes and everything
that would not show as itself, and a value with named parts as `Name { part: …, part: … }`. A record
that keeps parts back ends in `..`.
-/

namespace SignOn.Text

/-- A character inside a quoted text. -/
def escapeChar (c : Char) : List Char :=
  if c = '\x00' then ['\\', '0']
  else if c = '\t' then ['\\', 't']
  else if c = '\r' then ['\\', 'r']
  else if c = '\n' then ['\\', 'n']
  else if c = '"' then ['\\', '"']
  else if c = '\\' then ['\\', '\\']
  else if Unicode.isPrintable c && !Unicode.extendsGrapheme c then [c]
  else "\\u\x7b".toList ++ hexNumeral c.toNat ++ ['\x7d']

/-- A text between double quotes, with everything escaped that would not show as itself. -/
def quote (s : String) : String := String.ofList ('"' :: s.toList.flatMap escapeChar ++ ['"'])

/-- What diagnostics show in place of a secret. -/
def redacted : String := quote "[REDACTED]"

/-- A list of shown values. -/
def showList (values : List String) : String := "[" ++ join ", " values ++ "]"

/-- A shown value that may be absent. -/
def showOption : Option String → String
  | some value => "Some(" ++ value ++ ")"
  | none => "None"

/-- A truth value in lower case. -/
def showBool (b : Bool) : String := if b then "true" else "false"

private def showPart (part : String × String) : String := part.1 ++ ": " ++ part.2

/-- A value with named parts, all of them shown. -/
def showRecord (name : String) (parts : List (String × String)) : String :=
  name ++ " \x7b " ++ join ", " (parts.map showPart) ++ " \x7d"

/-- A value with named parts, some of them kept back. -/
def showOpenRecord (name : String) (parts : List (String × String)) : String :=
  name ++ " \x7b " ++ join ", " (parts.map showPart ++ [".."]) ++ " \x7d"

end SignOn.Text
