import SignOn.Json.Numeral

/-!
# Passing over JSON values

The values of members that a record does not know are passed over. Only their structure is checked:
brackets, commas, colons, literals and the spelling of strings and numbers, but neither the range of
a number nor what the escapes of a string stand for.
-/

namespace SignOn.Json

/-- The octets after a string, from after its opening quote. -/
def skipString : Octets → Except Fault Octets
  | [] => .error .truncated
  | b :: bs =>
    if b = 0x22 then .ok bs
    else if b = 0x5C then
      match bs with
      | [] => .error .truncated
      | e :: rest =>
        if e = 0x75 then
          match rest with
          | h₁ :: h₂ :: h₃ :: h₄ :: rest =>
            if (hexUnit? h₁ h₂ h₃ h₄).isSome then skipString rest else .error .malformed
          | _ => .error .truncated
        else if (shortEscape? e).isSome then skipString rest
        else .error .malformed
    else if b < 0x20 then .error .malformed
    else skipString bs

/-- The octets after a number. -/
def skipNumeral (bs : Octets) : Except Fault Octets :=
  match numeral .malformed bs with
  | .ok (_, rest) => .ok rest
  | .error fault => .error fault

/-- The octets after a value that is neither an array nor an object and begins with `b`. -/
def skipScalar (b : UInt8) (rest : Octets) : Except Fault Octets :=
  if b = 0x22 then skipString rest
  else if b = 0x6E then literal (Octets.ofText "ull") rest
  else if b = 0x74 then literal (Octets.ofText "rue") rest
  else if b = 0x66 then literal (Octets.ofText "alse") rest
  else if b = 0x2D then skipNumeral rest
  else if isDigit b then skipNumeral (b :: rest)
  else .error .malformed

/-- The octets after the name of a member and its colon. -/
def skipName (bs : Octets) : Except Fault Octets :=
  match skipBlanks bs with
  | [] => .error .truncated
  | b :: rest =>
    if b = 0x22 then
      match skipString rest with
      | .error fault => .error fault
      | .ok rest =>
        match skipBlanks rest with
        | [] => .error .truncated
        | b :: rest => if b = 0x3A then .ok rest else .error .malformed
    else .error .malformed

/-- The brackets that may be open around a value. -/
inductive Bracket where
  | array
  | object
  deriving DecidableEq

/-- The octet that closes a bracket. -/
def Bracket.closing : Bracket → UInt8
  | array => 0x5D
  | object => 0x7D

/-- What comes before the value of an element or a member inside a bracket. -/
def skipToValue : Bracket → Octets → Except Fault Octets
  | .array, bs => .ok bs
  | .object, bs => skipName bs

theorem length_literal_le {cs bs rest : Octets} (h : literal cs bs = .ok rest) :
    rest.length ≤ bs.length := by
  fun_induction literal cs bs with
  | case1 bs =>
    cases h
    exact Nat.le_refl _
  | case2 => cases h
  | case3 c cs bs ih =>
    have := ih h
    simp only [List.length_cons]
    omega
  | case4 => cases h

theorem length_skipString {bs rest : Octets} (h : skipString bs = .ok rest) :
    rest.length < bs.length := by
  fun_induction skipString bs <;> simp_all <;> omega

theorem length_skipNumeral {bs rest : Octets} (h : skipNumeral bs = .ok rest) :
    rest.length < bs.length := by
  unfold skipNumeral at h
  split at h
  · next hn =>
    have := length_numeral hn
    cases h
    omega
  · cases h

theorem length_skipScalar {b : UInt8} {bs rest : Octets} (h : skipScalar b bs = .ok rest) :
    rest.length ≤ bs.length := by
  unfold skipScalar at h
  split at h
  · exact Nat.le_of_lt (length_skipString h)
  split at h
  · exact length_literal_le h
  split at h
  · exact length_literal_le h
  split at h
  · exact length_literal_le h
  split at h
  · exact Nat.le_of_lt (length_skipNumeral h)
  split at h
  · have := length_skipNumeral h
    simp only [List.length_cons] at this
    omega
  · cases h

theorem length_skipName {bs rest : Octets} (h : skipName bs = .ok rest) :
    rest.length < bs.length := by
  unfold skipName at h
  split at h
  · cases h
  next hs =>
  have hb := length_lt_of_skipBlanks hs
  split at h
  · split at h
    · cases h
    next hs' =>
    have hl := length_skipString hs'
    split at h
    · cases h
    next hs'' =>
    have hb' := length_lt_of_skipBlanks hs''
    split at h
    · cases h
      omega
    · cases h
  · cases h

theorem length_skipToValue {bracket : Bracket} {bs rest : Octets}
    (h : skipToValue bracket bs = .ok rest) : rest.length ≤ bs.length := by
  cases bracket with
  | array =>
    obtain rfl := Except.ok.inj h
    exact Nat.le_refl _
  | object => exact Nat.le_of_lt (length_skipName h)

/-- Where a reader stands. -/
inductive Place where
  /-- Before a value. -/
  | value
  /-- After the opening bracket. -/
  | opened
  /-- After a value. -/
  | after
  deriving DecidableEq

/-- The octets after the value that a reader stands in, inside open brackets, innermost first. -/
def skipFrom (place : Place) (brackets : List Bracket) (bs : Octets) : Except Fault Octets :=
  match place, brackets with
  | .value, brackets =>
    match hs : skipBlanks bs with
    | [] => .error .truncated
    | b :: rest =>
      have := length_lt_of_skipBlanks hs
      if b = 0x5B then skipFrom .opened (.array :: brackets) rest
      else if b = 0x7B then skipFrom .opened (.object :: brackets) rest
      else
        match h : skipScalar b rest with
        | .ok rest =>
          have := length_skipScalar h
          skipFrom .after brackets rest
        | .error fault => .error fault
  | .opened, bracket :: outer =>
    match hs : skipBlanks bs with
    | [] => .error .truncated
    | b :: rest =>
      have := length_lt_of_skipBlanks hs
      if b = bracket.closing then skipFrom .after outer rest
      else
        match h : skipToValue bracket (b :: rest) with
        | .ok rest =>
          have := length_skipToValue h
          skipFrom .value (bracket :: outer) rest
        | .error fault => .error fault
  | .after, bracket :: outer =>
    match hs : skipBlanks bs with
    | [] => .error .truncated
    | b :: rest =>
      have := length_lt_of_skipBlanks hs
      if b = bracket.closing then skipFrom .after outer rest
      else if b = 0x2C then
        match h : skipToValue bracket rest with
        | .ok rest =>
          have := length_skipToValue h
          skipFrom .value (bracket :: outer) rest
        | .error fault => .error fault
      else .error .malformed
  | _, [] => .ok bs
termination_by (bs.length, if place = .opened then 1 else 0)
decreasing_by
  all_goals simp only [List.length_cons, Prod.lex_def] at *
  all_goals simp
  all_goals omega

/-- The octets after a value. -/
def skipValue (bs : Octets) : Except Fault Octets := skipFrom .value [] bs

theorem length_skipFrom_le {place : Place} {brackets : List Bracket} {bs rest : Octets}
    (h : skipFrom place brackets bs = .ok rest) : rest.length ≤ bs.length := by
  fun_induction skipFrom place brackets bs <;> simp_all <;> omega

end SignOn.Json
