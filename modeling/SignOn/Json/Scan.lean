import SignOn.Octets
import SignOn.Text.Digit

/-!
# Scanning JSON text

JSON text is read from left to right as octets, and reading stops at the first fault. This module
has the steps that readers share: white space, literals and strings. A string is decoded octet by
octet, its escapes written out as UTF-8, and must be well-formed as a whole.
-/

namespace SignOn.Json

/-- Why a JSON text was refused. -/
inductive Fault where
  /-- The text ended early. -/
  | truncated
  /-- The text is no JSON. -/
  | malformed
  /-- The text holds something else than was asked for. -/
  | mismatched
  deriving DecidableEq

/-- The white space of JSON. -/
def isBlank (b : UInt8) : Bool := b = 0x20 || b = 0x0A || b = 0x0D || b = 0x09

/-- The octets after white space. -/
def skipBlanks (bs : Octets) : Octets := bs.dropWhile isBlank

/-- The octets after an expected spelling. -/
def literal : Octets → Octets → Except Fault Octets
  | [], bs => .ok bs
  | _ :: _, [] => .error .truncated
  | c :: cs, b :: bs => if b = c then literal cs bs else .error .malformed

/-- The octet that an escape of one letter stands for. -/
def shortEscape? (b : UInt8) : Option UInt8 :=
  if b = 0x22 ∨ b = 0x5C ∨ b = 0x2F then some b
  else if b = 0x62 then some 0x08
  else if b = 0x66 then some 0x0C
  else if b = 0x6E then some 0x0A
  else if b = 0x72 then some 0x0D
  else if b = 0x74 then some 0x09
  else none

/-- The value of four hexadecimal digits. -/
def hexUnit? (a b c d : UInt8) : Option Nat := do
  let digit? (x : UInt8) := Text.hexDigit? (Char.ofNat x.toNat)
  pure ((((← digit? a) * 16 + (← digit? b)) * 16 + (← digit? c)) * 16 + (← digit? d))

/-- Four hexadecimal digits. -/
def hexUnit : Octets → Except Fault (Nat × Octets)
  | a :: b :: c :: d :: rest =>
    match hexUnit? a b c d with
    | some unit => .ok (unit, rest)
    | none => .error .malformed
  | _ => .error .truncated

/-- Whether a unit is the first of a surrogate pair. -/
def isHighSurrogate (unit : Nat) : Bool := 0xD800 ≤ unit && unit ≤ 0xDBFF

/-- Whether a unit is the second of a surrogate pair. -/
def isLowSurrogate (unit : Nat) : Bool := 0xDC00 ≤ unit && unit ≤ 0xDFFF

/-- The second unit of a surrogate pair, with its escape. -/
def lowSurrogate : Octets → Except Fault (Nat × Octets)
  | [] => .error .truncated
  | [b] => .error (if b = 0x5C then .truncated else .malformed)
  | b :: u :: rest =>
    if b = 0x5C ∧ u = 0x75 then
      match hexUnit rest with
      | .ok (unit, rest) => if isLowSurrogate unit then .ok (unit, rest) else .error .malformed
      | .error fault => .error fault
    else .error .malformed

/-- The character of an escape by number, after its `u`. -/
def numericEscape (bs : Octets) : Except Fault (Char × Octets) :=
  match hexUnit bs with
  | .error fault => .error fault
  | .ok (unit, rest) =>
    if isHighSurrogate unit then
      match lowSurrogate rest with
      | .ok (low, rest) =>
        .ok (Char.ofNat (0x10000 + (unit - 0xD800) * 0x400 + (low - 0xDC00)), rest)
      | .error fault => .error fault
    else if isLowSurrogate unit then .error .malformed
    else .ok (Char.ofNat unit, rest)

/-- The octets that an escape stands for, after its backslash. -/
def escape : Octets → Except Fault (Octets × Octets)
  | [] => .error .truncated
  | b :: rest =>
    if b = 0x75 then
      match numericEscape rest with
      | .ok (c, rest) => .ok (String.utf8EncodeChar c, rest)
      | .error fault => .error fault
    else
      match shortEscape? b with
      | some octet => .ok ([octet], rest)
      | none => .error .malformed

theorem length_hexUnit {bs rest : Octets} {unit : Nat} (h : hexUnit bs = .ok (unit, rest)) :
    rest.length < bs.length := by
  unfold hexUnit at h
  split at h
  · split at h <;> cases h
    simp only [List.length_cons]
    omega
  · cases h

theorem length_lowSurrogate {bs rest : Octets} {unit : Nat}
    (h : lowSurrogate bs = .ok (unit, rest)) : rest.length < bs.length := by
  unfold lowSurrogate at h
  split at h
  · cases h
  · cases h
  split at h
  · split at h
    · next hu =>
      have := length_hexUnit hu
      split at h <;> cases h
      simp only [List.length_cons]
      omega
    · cases h
  · cases h

theorem length_numericEscape {bs rest : Octets} {c : Char}
    (h : numericEscape bs = .ok (c, rest)) : rest.length < bs.length := by
  unfold numericEscape at h
  split at h
  · cases h
  · next hu =>
    have := length_hexUnit hu
    split at h
    · split at h
      · next hl =>
        have := length_lowSurrogate hl
        obtain ⟨-, rfl⟩ := Prod.mk.inj (Except.ok.inj h)
        omega
      · cases h
    · split at h
      · cases h
      · obtain ⟨-, rfl⟩ := Prod.mk.inj (Except.ok.inj h)
        omega

/-- An escape has at least one octet. -/
theorem length_escape {bs rest octets : Octets} (h : escape bs = .ok (octets, rest)) :
    rest.length < bs.length := by
  unfold escape at h
  split at h
  · cases h
  split at h
  · split at h
    · next hn =>
      have := length_numericEscape hn
      cases h
      simp only [List.length_cons]
      omega
    · cases h
  · split at h <;> cases h
    simp

/-- The octets of a string from after its opening quote, and what follows its closing quote. -/
def stringOctets : Octets → Except Fault (Octets × Octets)
  | [] => .error .truncated
  | b :: bs =>
    if b = 0x22 then .ok ([], bs)
    else if b = 0x5C then
      match h : escape bs with
      | .ok (octets, rest) =>
        have := length_escape h
        match stringOctets rest with
        | .ok (more, after) => .ok (octets ++ more, after)
        | .error fault => .error fault
      | .error fault => .error fault
    else if b < 0x20 then .error .malformed
    else
      match stringOctets bs with
      | .ok (more, after) => .ok (b :: more, after)
      | .error fault => .error fault
termination_by bs => bs.length
decreasing_by
  · simp only [List.length_cons]
    omega
  · simp

/-- The text of a string from after its opening quote, and what follows its closing quote. -/
def stringText (bs : Octets) : Except Fault (String × Octets) :=
  match stringOctets bs with
  | .ok (octets, rest) =>
    match Octets.text? octets with
    | some text => .ok (text, rest)
    | none => .error .malformed
  | .error fault => .error fault

theorem length_stringOctets {bs octets rest : Octets} (h : stringOctets bs = .ok (octets, rest)) :
    rest.length < bs.length := by
  fun_induction stringOctets bs generalizing octets rest with
  | case1 => cases h
  | case2 =>
    cases h
    simp
  | case3 bs octets' rest' he hlt more after hs hq ih =>
    have := ih hs
    cases h
    simp only [List.length_cons]
    omega
  | case4 => cases h
  | case5 => cases h
  | case6 => cases h
  | case7 b bs hq hb hc more after hs ih =>
    have := ih hs
    cases h
    simp only [List.length_cons]
    omega
  | case8 => cases h

/-- A string has at least its closing quote. -/
theorem length_stringText {bs rest : Octets} {text : String}
    (h : stringText bs = .ok (text, rest)) : rest.length < bs.length := by
  unfold stringText at h
  split at h
  · next hs =>
    have := length_stringOctets hs
    split at h <;> cases h
    exact this
  · cases h

theorem length_skipBlanks_le (bs : Octets) : (skipBlanks bs).length ≤ bs.length :=
  (List.dropWhile_sublist _).length_le

theorem length_lt_of_skipBlanks {bs rest : Octets} {b : UInt8} (h : skipBlanks bs = b :: rest) :
    rest.length < bs.length := by
  have := length_skipBlanks_le bs
  rw [h, List.length_cons] at this
  exact this

end SignOn.Json
