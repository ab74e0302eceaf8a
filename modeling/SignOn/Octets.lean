import SignOn.Text.Split

/-!
# Octets and UTF-8

Headers, secrets and bodies are sequences of octets. `Octets.ofText` writes a text as UTF-8,
`Octets.text?` reads it back and refuses everything else, and `Octets.lossyText` replaces each
ill-formed part by U+FFFD. Both readers are runs of one step, `Octets.front`, which takes a
character or the longest ill-formed part off the front.
-/

namespace SignOn

/-- A sequence of octets. -/
abbrev Octets := List UInt8

namespace Octets

/-- The UTF-8 octets of a text. -/
def ofText (s : String) : Octets := s.toList.flatMap String.utf8EncodeChar

/-- Whether an octet continues a character. -/
def isTail (b : UInt8) : Bool := 0x80 ≤ b && b ≤ 0xBF

/-- Six bits of a continuation octet. -/
def tailBits (b : UInt8) : Nat := b.toNat - 0x80

/-- The octets that may stand second after a first octet, so that no character has two spellings
and none lies outside Unicode. -/
def isSecond (a b : UInt8) : Bool :=
  if a = 0xE0 then 0xA0 ≤ b && b ≤ 0xBF
  else if a = 0xED then 0x80 ≤ b && b ≤ 0x9F
  else if a = 0xF0 then 0x90 ≤ b && b ≤ 0xBF
  else if a = 0xF4 then 0x80 ≤ b && b ≤ 0x8F
  else isTail b

/-- One step of reading UTF-8 from a first octet `a` and what follows it: the character there, or
`none` for an ill-formed part, and the octets after it. -/
def front (a : UInt8) (rest : Octets) : Option Char × Octets :=
  let n := a.toNat
  if n < 0x80 then (some (Char.ofNat n), rest)
  else if n < 0xC2 then (none, rest)
  else if n < 0xE0 then
    match rest with
    | b :: rest' =>
      if isTail b then (some (Char.ofNat ((n - 0xC0) * 0x40 + tailBits b)), rest') else (none, rest)
    | [] => (none, [])
  else if n < 0xF0 then
    match rest with
    | b :: rest' =>
      if isSecond a b then
        match rest' with
        | c :: rest'' =>
          if isTail c then
            (some (Char.ofNat ((n - 0xE0) * 0x1000 + tailBits b * 0x40 + tailBits c)), rest'')
          else (none, rest')
        | [] => (none, [])
      else (none, rest)
    | [] => (none, [])
  else if n < 0xF5 then
    match rest with
    | b :: rest' =>
      if isSecond a b then
        match rest' with
        | c :: rest'' =>
          if isTail c then
            match rest'' with
            | d :: rest''' =>
              if isTail d then
                (some (Char.ofNat ((n - 0xF0) * 0x40000 + tailBits b * 0x1000 + tailBits c * 0x40 +
                  tailBits d)), rest''')
              else (none, rest'')
            | [] => (none, [])
          else (none, rest')
        | [] => (none, [])
      else (none, rest)
    | [] => (none, [])
  else (none, rest)

/-- A step never adds octets. -/
theorem length_front_le (a : UInt8) (rest : Octets) : (front a rest).2.length ≤ rest.length := by
  unfold front
  simp only
  repeat' split
  all_goals simp
  all_goals omega

/-- The characters of a sequence, with `none` for each ill-formed part. -/
def parts : Octets → List (Option Char)
  | [] => []
  | a :: rest => (front a rest).1 :: parts (front a rest).2
termination_by bs => bs.length
decreasing_by
  have := length_front_le a rest
  simp only [List.length_cons]
  omega

/-- The text whose UTF-8 form the octets are. -/
def text? (bs : Octets) : Option String :=
  ((parts bs).mapM id).map String.ofList

/-- The text of a sequence with U+FFFD for every ill-formed part. -/
def lossyText (bs : Octets) : String :=
  String.ofList ((parts bs).map (·.getD '\ufffd'))

end Octets

end SignOn
