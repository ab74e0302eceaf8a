import SignOn.Json.Skip

/-!
# Records in JSON

A record is a fixed set of named texts. It is read from an object with the names as members, in any
order, or from an array with the values in the order of the fields. A closed record refuses members
it does not know, an open one passes over them. No member may be repeated, and a field that is not
optional may not be missing.
-/

namespace SignOn.Json

/-- A named text of a record. -/
structure Field where
  name : String
  /-- Whether `null` may stand for an absent text. -/
  nullable : Bool := false
  /-- Whether the field may be missing. -/
  optional : Bool := false
  /-- The texts that the field takes. -/
  accepts : String → Bool := fun _ => true

/-- The fields of a record. -/
structure Shape where
  fields : List Field
  /-- Whether members without a field are refused. -/
  closed : Bool := false

/-- The fields that were read, a `null` without text. -/
abbrev Members := List (String × Option String)

/-- The text of a field. -/
def Members.text? (members : Members) (name : String) : Option String :=
  (members.lookup name).join

/-- The text of a field, empty if there is none. -/
def Members.textOrEmpty (members : Members) (name : String) : String :=
  (members.text? name).getD ""

/-- The fault of a value that begins with `b` and is neither of the type asked for nor ill-formed as
far as it is looked at. -/
def mistyped (b : UInt8) (rest : Octets) : Fault :=
  let literalFault (text : String) := match literal (Octets.ofText text) rest with
    | .ok _ => Fault.mismatched
    | .error fault => fault
  let numeralFault (bs : Octets) := match numeral .truncated bs with
    | .ok (n, _) => if n.isFinite then Fault.mismatched else .malformed
    | .error fault => fault
  if b = 0x6E then literalFault "ull"
  else if b = 0x74 then literalFault "rue"
  else if b = 0x66 then literalFault "alse"
  else if b = 0x2D then numeralFault rest
  else if isDigit b then numeralFault (b :: rest)
  else if b = 0x22 then
    match stringText rest with
    | .ok _ => .mismatched
    | .error fault => fault
  else if b = 0x5B ∨ b = 0x7B then .mismatched
  else .malformed

/-- The text of a field, `none` for `null`. -/
def readValue (field : Field) (bs : Octets) : Except Fault (Option String × Octets) :=
  match skipBlanks bs with
  | [] => .error .truncated
  | b :: rest =>
    if field.nullable ∧ b = 0x6E then
      match literal (Octets.ofText "ull") rest with
      | .ok rest => .ok (none, rest)
      | .error fault => .error fault
    else if b = 0x22 then
      match stringText rest with
      | .ok (text, rest) => if field.accepts text then .ok (some text, rest) else .error .mismatched
      | .error fault => .error fault
    else .error (mistyped b rest)

/-- The octets after a colon. -/
def skipColon (bs : Octets) : Except Fault Octets :=
  match skipBlanks bs with
  | [] => .error .truncated
  | b :: rest => if b = 0x3A then .ok rest else .error .malformed

/-- The octets after the opening quote of the next member's name, or with `false` those after the
closing brace; members but the first come after a comma. -/
def nextMember (first : Bool) (bs : Octets) : Except Fault (Bool × Octets) :=
  match skipBlanks bs with
  | [] => .error .truncated
  | b :: rest =>
    if b = 0x7D then .ok (false, rest)
    else if first then (if b = 0x22 then .ok (true, rest) else .error .malformed)
    else if b = 0x2C then
      match skipBlanks rest with
      | [] => .error .truncated
      | b :: rest => if b = 0x22 then .ok (true, rest) else .error .malformed
    else .error .malformed

/-- A member from after the opening quote of its name: what it adds to the members that were read
before, and the octets after it. -/
def readMember (shape : Shape) (seen : Members) (bs : Octets) :
    Except Fault (Members × Octets) := do
  let (name, rest) ← stringText bs
  match shape.fields.find? (·.name = name) with
  | some field =>
    if (seen.lookup name).isSome then .error .mismatched
    else
      let rest ← skipColon rest
      let (value, rest) ← readValue field rest
      pure ([(name, value)], rest)
  | none =>
    if shape.closed then .error .mismatched
    else
      let rest ← skipColon rest
      let rest ← skipValue rest
      pure ([], rest)

theorem length_skipColon {bs rest : Octets} (h : skipColon bs = .ok rest) :
    rest.length < bs.length := by
  unfold skipColon at h
  split at h
  · cases h
  next hs =>
  have := length_lt_of_skipBlanks hs
  split at h
  · cases h
    exact this
  · cases h

theorem length_readValue {field : Field} {bs rest : Octets} {value : Option String}
    (h : readValue field bs = .ok (value, rest)) : rest.length < bs.length := by
  unfold readValue at h
  split at h
  · cases h
  next hs =>
  have := length_lt_of_skipBlanks hs
  split at h
  · split at h
    · next hl =>
      have := length_literal_le hl
      cases h
      omega
    · cases h
  split at h
  · split at h
    · next ht =>
      have := length_stringText ht
      split at h <;> cases h
      omega
    · cases h
  · cases h

theorem length_nextMember {first more : Bool} {bs rest : Octets}
    (h : nextMember first bs = .ok (more, rest)) : rest.length < bs.length := by
  unfold nextMember at h
  split at h
  · cases h
  next hs =>
  have := length_lt_of_skipBlanks hs
  split at h
  · cases h
    exact this
  split at h
  · split at h <;> cases h
    exact this
  split at h
  · split at h
    · cases h
    next hs' =>
    have := length_lt_of_skipBlanks hs'
    split at h <;> cases h
    omega
  · cases h

theorem length_readMember {shape : Shape} {seen added : Members} {bs rest : Octets}
    (h : readMember shape seen bs = .ok (added, rest)) : rest.length < bs.length := by
  unfold readMember at h
  rcases ht : stringText bs with fault | ⟨name, rest₁⟩ <;> rw [ht] at h
  · cases h
  have h₁ := length_stringText ht
  simp only [bind, Except.bind, pure, Except.pure] at h
  split at h
  · split at h
    · cases h
    split at h
    · cases h
    next hc =>
    have h₂ := length_skipColon hc
    split at h
    · cases h
    next hv =>
    have h₃ := length_readValue hv
    cases h
    omega
  · split at h
    · cases h
    split at h
    · cases h
    next hc =>
    have h₂ := length_skipColon hc
    split at h
    · cases h
    next hv =>
    have h₃ := length_skipFrom_le hv
    cases h
    omega

/-- The members of an object from after its opening brace, or from after a member, and the octets
after its closing brace. -/
def readMembers (shape : Shape) (first : Bool) (seen : Members) (bs : Octets) :
    Except Fault (Members × Octets) :=
  match h : nextMember first bs with
  | .error fault => .error fault
  | .ok (false, rest) => .ok (seen, rest)
  | .ok (true, rest) =>
    have := length_nextMember h
    match h : readMember shape seen rest with
    | .error fault => .error fault
    | .ok (added, rest) =>
      have := length_readMember h
      readMembers shape false (seen ++ added) rest
termination_by bs.length

/-- Whether every field that is not optional is among the members. -/
def Shape.isCovered (shape : Shape) (members : Members) : Bool :=
  shape.fields.all fun field => field.optional || (members.lookup field.name).isSome

/-- The octets of the next element of an array, or `none` at its end; elements but the first come
after a comma. -/
def nextElement (first : Bool) (bs : Octets) : Except Fault (Option Octets) :=
  match skipBlanks bs with
  | [] => .error .truncated
  | b :: rest =>
    if b = 0x5D then .ok none
    else if first then .ok (some (b :: rest))
    else if b = 0x2C then
      match skipBlanks rest with
      | [] => .error .truncated
      | b :: rest => if b = 0x5D then .error .malformed else .ok (some (b :: rest))
    else .error .malformed

/-- The octets after the closing bracket of an array that has no more elements. -/
def closeArray (bs : Octets) : Except Fault Octets :=
  match skipBlanks bs with
  | [] => .error .truncated
  | b :: rest => if b = 0x5D then .ok rest else .error .malformed

/-- The elements of an array, one for each field, from after its opening bracket or from after an
element, and the octets after its closing bracket. Optional fields at the end may be missing. -/
def readElements (fields : List Field) (first : Bool) (bs : Octets) :
    Except Fault (Members × Octets) :=
  match fields with
  | [] => do
    let rest ← closeArray bs
    pure ([], rest)
  | field :: fields => do
    match ← nextElement first bs with
    | none =>
      if (field :: fields).all (·.optional) then
        let rest ← closeArray bs
        pure ([], rest)
      else .error .mismatched
    | some element =>
      let (value, rest) ← readValue field element
      let (members, rest) ← readElements fields false rest
      pure ((field.name, value) :: members, rest)

/-- A record at the front of a text, and the octets after it. -/
def Shape.readFront (shape : Shape) (bs : Octets) : Except Fault (Members × Octets) :=
  match skipBlanks bs with
  | [] => .error .truncated
  | b :: rest =>
    if b = 0x7B then do
      let (members, rest) ← readMembers shape true [] rest
      if shape.isCovered members then pure (members, rest) else .error .mismatched
    else if b = 0x5B then readElements shape.fields true rest
    else .error (mistyped b rest)

/-- The record that a text holds; only white space may follow it. -/
def Shape.read (shape : Shape) (bs : Octets) : Except Fault Members := do
  let (members, rest) ← shape.readFront bs
  if skipBlanks rest = [] then pure members else .error .malformed

end SignOn.Json
