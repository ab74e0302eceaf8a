import SignOn.Proofs.Json.RoundTrip

/-!
# JSON texts

The grammar of JSON, as syntax trees that keep how everything is spelled: blanks, escapes, numerals
and the order of members. A tree is written by `Document.octets`. What a string stands for is said
by `text?`; a string with half of a surrogate pair stands for no text.
-/

namespace SignOn.Json

/-! ## Strings -/

/-- White space between the parts of a text. -/
inductive Blank where
  | space
  | tab
  | lineFeed
  | carriageReturn
  deriving DecidableEq

/-- The character of a blank. -/
def Blank.char : Blank → Char
  | space => ' '
  | tab => '\t'
  | lineFeed => '\n'
  | carriageReturn => '\r'

/-- The characters of blanks. -/
def blankChars (blanks : List Blank) : List Char := blanks.map Blank.char

/-- A hexadecimal digit of either case. -/
structure HexDigit where
  value : Fin 16
  upper : Bool := false
  deriving DecidableEq

/-- The character of a hexadecimal digit. -/
def HexDigit.char (d : HexDigit) : Char :=
  if d.upper then Text.upperHex d.value else Text.lowerHex d.value

/-- The characters with an escape of one letter. -/
inductive Escape where
  | quote
  | backslash
  | slash
  | backspace
  | formFeed
  | lineFeed
  | carriageReturn
  | tab
  deriving DecidableEq

/-- The letter of an escape. -/
def Escape.letter : Escape → Char
  | quote => '"'
  | backslash => '\\'
  | slash => '/'
  | backspace => 'b'
  | formFeed => 'f'
  | lineFeed => 'n'
  | carriageReturn => 'r'
  | tab => 't'

/-- The character that an escape stands for. -/
def Escape.meaning : Escape → Char
  | quote => '"'
  | backslash => '\\'
  | slash => '/'
  | backspace => '\x08'
  | formFeed => '\x0c'
  | lineFeed => '\n'
  | carriageReturn => '\r'
  | tab => '\t'

/-- A part of a string. -/
inductive Glyph where
  /-- A character that stands for itself. -/
  | plain (c : Char) (notQuote : c ≠ '"') (notBackslash : c ≠ '\\') (notControl : 0x20 ≤ c.toNat)
  | escape (e : Escape)
  /-- A unit of UTF-16 by its number. -/
  | unit (a b c d : HexDigit)
  deriving DecidableEq

/-- The characters of a part of a string. -/
def Glyph.chars : Glyph → List Char
  | plain c _ _ _ => [c]
  | escape e => ['\\', e.letter]
  | unit a b c d => ['\\', 'u', a.char, b.char, c.char, d.char]

/-- The characters between the quotes of a string. -/
def glyphChars (glyphs : List Glyph) : List Char := glyphs.flatMap Glyph.chars

/-- The number of a unit. -/
def unitValue (a b c d : HexDigit) : Nat :=
  ((a.value * 16 + b.value) * 16 + c.value) * 16 + d.value

/-- The characters that a string stands for. Two surrogates in a row, the high one first, stand for
one character, and a surrogate that is alone stands for none. -/
def meaning? : List Glyph → Option (List Char)
  | [] => some []
  | .plain c _ _ _ :: glyphs => (meaning? glyphs).map (c :: ·)
  | .escape e :: glyphs => (meaning? glyphs).map (e.meaning :: ·)
  | .unit a b c d :: glyphs =>
    if isHighSurrogate (unitValue a b c d) then
      match glyphs with
      | .unit a' b' c' d' :: glyphs =>
        if isLowSurrogate (unitValue a' b' c' d') then
          (meaning? glyphs).map (Char.ofNat (0x10000 + (unitValue a b c d - 0xD800) * 0x400 +
            (unitValue a' b' c' d' - 0xDC00)) :: ·)
        else none
      | _ => none
    else if isLowSurrogate (unitValue a b c d) then none
    else (meaning? glyphs).map (Char.ofNat (unitValue a b c d) :: ·)

/-- The text that a string stands for. -/
def text? (glyphs : List Glyph) : Option String := (meaning? glyphs).map String.ofList

/-- The characters of a text that can stand for themselves. -/
def plainGlyphs (text : String) : List Glyph :=
  text.toList.filterMap fun c =>
    if h : c ≠ '"' ∧ c ≠ '\\' ∧ 0x20 ≤ c.toNat then some (.plain c h.1 h.2.1 h.2.2) else none

/-! ## Numbers -/

/-- The characters of decimal digits. -/
def digitChars (digits : List (Fin 10)) : List Char := digits.map (Nat.digitChar ·.val)

/-- Decimal digits, at least one. -/
structure Digits where
  first : Fin 10
  more : List (Fin 10) := []
  deriving DecidableEq

/-- The characters of digits. -/
def Digits.chars (ds : Digits) : List Char := digitChars (ds.first :: ds.more)

/-- The integer part of a number, without leading zeros. -/
inductive Whole where
  | zero
  | other (first : Fin 10) (notZero : first ≠ 0) (more : List (Fin 10))
  deriving DecidableEq

/-- The characters of an integer part. -/
def Whole.chars : Whole → List Char
  | zero => ['0']
  | other first _ more => digitChars (first :: more)

/-- The sign of an exponent. -/
inductive Sign where
  | plus
  | minus
  deriving DecidableEq

/-- The character of a sign. -/
def Sign.char : Sign → Char
  | plus => '+'
  | minus => '-'

/-- An exponent, after a letter of either case. -/
structure Exponent where
  upper : Bool := false
  sign : Option Sign := none
  digits : Digits
  deriving DecidableEq

/-- The characters of an exponent. -/
def Exponent.chars (e : Exponent) : List Char :=
  (if e.upper then 'E' else 'e') :: (e.sign.toList.map Sign.char ++ e.digits.chars)

/-- A number of any size. -/
structure Number where
  negative : Bool := false
  whole : Whole
  fraction : Option Digits := none
  exponent : Option Exponent := none
  deriving DecidableEq

/-- The characters of a number after its sign. -/
def Number.magnitude (n : Number) : List Char :=
  n.whole.chars ++ (n.fraction.elim [] fun ds => '.' :: ds.chars) ++
    n.exponent.elim [] Exponent.chars

/-- The characters of a number. -/
def Number.chars (n : Number) : List Char := (if n.negative then ['-'] else []) ++ n.magnitude

/-! ## Values -/

/-- A value with the blanks around it. -/
structure Item (α : Type) where
  before : List Blank := []
  value : α
  after : List Blank := []

/-- A member of an object: a name with the blanks around it, and after a colon its value. -/
structure Member (α : Type) where
  before : List Blank := []
  name : List Glyph
  gap : List Blank := []
  item : Item α

/-- A value. The blanks after an opening bracket stand on their own. -/
inductive Value where
  | null
  | boolean (b : Bool)
  | number (n : Number)
  | string (glyphs : List Glyph)
  | array (inner : List Blank) (items : List (Item Value))
  | object (inner : List Blank) (members : List (Member Value))

/-- A text with blanks around it. -/
def padded (before : List Blank) (cs : List Char) (after : List Blank) : List Char :=
  blankChars before ++ (cs ++ blankChars after)

/-- A string with its quotes. -/
def quoted (glyphs : List Glyph) : List Char := '"' :: (glyphChars glyphs ++ ['"'])

/-- What stands before the value of a member. -/
def labelChars (before : List Blank) (name : List Glyph) (gap : List Blank) : List Char :=
  blankChars before ++ (quoted name ++ (blankChars gap ++ [':']))

mutual

/-- The characters of a value. -/
def Value.chars : Value → List Char
  | .null => "null".toList
  | .boolean b => if b then "true".toList else "false".toList
  | .number n => n.chars
  | .string glyphs => quoted glyphs
  | .array inner items =>
    '[' :: (blankChars inner ++ (Text.joinWith [','] (itemTexts items) ++ [']']))
  | .object inner members =>
    '\x7b' :: (blankChars inner ++ (Text.joinWith [','] (memberTexts members) ++ ['\x7d']))

/-- The characters of the elements of an array, each on their own. -/
def itemTexts : List (Item Value) → List (List Char)
  | [] => []
  | ⟨before, value, after⟩ :: items => padded before value.chars after :: itemTexts items

/-- The characters of the members of an object, each on their own. -/
def memberTexts : List (Member Value) → List (List Char)
  | [] => []
  | ⟨before, name, gap, ⟨front, value, after⟩⟩ :: members =>
    (labelChars before name gap ++ padded front value.chars after) :: memberTexts members

end

/-- The characters of an item. -/
def Item.chars (item : Item Value) : List Char := padded item.before item.value.chars item.after

/-- The characters of a member. -/
def Member.chars (member : Member Value) : List Char :=
  labelChars member.before member.name member.gap ++ member.item.chars

theorem itemTexts_eq (items : List (Item Value)) : itemTexts items = items.map Item.chars := by
  induction items with
  | nil => rfl
  | cons item items ih => rw [itemTexts, ih, List.map_cons, Item.chars]

theorem memberTexts_eq (members : List (Member Value)) :
    memberTexts members = members.map Member.chars := by
  induction members with
  | nil => rfl
  | cons member members ih => rw [memberTexts, ih, List.map_cons, Member.chars, Item.chars]

/-- A JSON text: a value with blanks around it. -/
abbrev Document := Item Value

/-- The octets of a JSON text. -/
def Document.octets (d : Document) : Octets := Octets.ofText (String.ofList d.chars)

end SignOn.Json
