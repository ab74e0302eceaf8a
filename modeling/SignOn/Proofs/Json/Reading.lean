import SignOn.Proofs.Json.Skipping

/-!
# Reading documents

What a record reads off a document is said on the document's tree (`Shape.holds?`), and the reader
is shown to read just that (`toOption_read`). Blanks and the spelling of strings do not occur there.
-/

namespace SignOn.Json

private theorem toOption_bind {α β : Type} (x : Except Fault α) (f : α → Except Fault β) :
    (x >>= f).toOption = x.toOption.bind fun a => (f a).toOption := by
  cases x with
  | error fault => rfl
  | ok a => rfl

private theorem toOption_ok {α : Type} (a : α) :
    (Except.ok a : Except Fault α).toOption = some a := rfl

/-! ## Strings -/

private theorem toOption_afterOctets (octets : Octets) (result : Except Fault (Octets × Octets)) :
    (afterOctets octets result).toOption =
      result.toOption.map fun (more, rest) => (octets ++ more, rest) := by
  cases result with
  | error fault => rfl
  | ok result => rfl

private theorem stringOctets_escape_error {bs : Octets} {e : Fault} (h : escape bs = .error e) :
    stringOctets (0x5C :: bs) = .error e := by
  rw [stringOctets, if_neg (by decide), if_pos rfl]
  split
  · next he => cases h.symm.trans he
  · next he => exact congrArg Except.error (Except.error.inj (he.symm.trans h))

private theorem escape_octet (e : Escape) (rest : Octets) :
    escape (e.octet :: rest) = .ok (spelled [e.meaning], rest) := by
  obtain ⟨hne, octet, hoctet, hspelled⟩ := shortEscape?_octet e
  rw [escape, if_neg hne]
  simp only [hoctet, hspelled]

section

variable (a b c d : HexDigit) (rest : Octets)

private theorem hexUnit_octets :
    hexUnit (a.octet :: b.octet :: c.octet :: d.octet :: rest) = .ok (unitValue a b c d, rest) := by
  simp only [hexUnit, hexUnit?_octet]

variable {a b c d rest}

private theorem escape_other (hhigh : ¬ isHighSurrogate (unitValue a b c d) = true)
    (hlow : ¬ isLowSurrogate (unitValue a b c d) = true) :
    escape (0x75 :: a.octet :: b.octet :: c.octet :: d.octet :: rest) =
      .ok (spelled [Char.ofNat (unitValue a b c d)], rest) := by
  rw [escape, if_pos rfl, spelled_cons, spelled_nil, List.append_nil]
  simp only [numericEscape, hexUnit_octets, hhigh, hlow, Bool.false_eq_true, if_false]

private theorem escape_low (hhigh : ¬ isHighSurrogate (unitValue a b c d) = true)
    (hlow : isLowSurrogate (unitValue a b c d) = true) :
    escape (0x75 :: a.octet :: b.octet :: c.octet :: d.octet :: rest) = .error .malformed := by
  rw [escape, if_pos rfl]
  simp only [numericEscape, hexUnit_octets, hhigh, hlow, Bool.false_eq_true, if_false, if_true]

private theorem escape_high (hhigh : isHighSurrogate (unitValue a b c d) = true) :
    escape (0x75 :: a.octet :: b.octet :: c.octet :: d.octet :: rest) =
      (lowSurrogate rest).map fun (low, rest) => (spelled
        [Char.ofNat (0x10000 + (unitValue a b c d - 0xD800) * 0x400 + (low - 0xDC00))], rest) := by
  rw [escape, if_pos rfl]
  simp only [spelled_cons, spelled_nil, List.append_nil]
  simp only [numericEscape, hexUnit_octets, hhigh, if_true]
  cases lowSurrogate rest with
  | error fault => rfl
  | ok result => rfl

end

private theorem lowSurrogate_unit (a b c d : HexDigit) (rest : Octets) :
    lowSurrogate (spelled (Glyph.unit a b c d).chars ++ rest) =
      if isLowSurrogate (unitValue a b c d) then .ok (unitValue a b c d, rest)
      else .error .malformed := by
  rw [spelled_unit]
  simp only [List.cons_append, List.nil_append, lowSurrogate, and_self, if_true, hexUnit_octets]

private theorem lowSurrogate_cons {b : UInt8} (h : b ≠ 0x5C) (bs : Octets) :
    ∃ fault, lowSurrogate (b :: bs) = .error fault := by
  cases bs with
  | nil => exact ⟨_, rfl⟩
  | cons u rest => exact ⟨.malformed, if_neg fun hu => h hu.1⟩

/-- There is no second half of a pair where a string does not go on with a unit. -/
private theorem lowSurrogate_glyphChars {glyphs : List Glyph}
    (h : ∀ a b c d more, glyphs ≠ .unit a b c d :: more) (rest : Octets) :
    ∃ fault, lowSurrogate (spelled (glyphChars glyphs) ++ 0x22 :: rest) = .error fault := by
  cases glyphs with
  | nil => exact lowSurrogate_cons (by decide) rest
  | cons glyph glyphs =>
    rw [glyphChars, List.flatMap_cons, spelled_append, List.append_assoc]
    cases glyph with
    | plain ch notQuote notBackslash notControl =>
      have hplain := plain_of_mem_utf8EncodeChar notQuote notBackslash notControl
      obtain ⟨b, bs, hch⟩ := List.exists_cons_of_ne_nil (String.utf8EncodeChar_ne_nil (c := ch))
      rw [Glyph.chars, spelled_cons, spelled_nil, List.append_nil, hch]
      exact lowSurrogate_cons (hplain b (hch ▸ List.mem_cons_self)).2.1 _
    | escape e =>
      rw [spelled_escape]
      exact ⟨.malformed, if_neg fun hu => (shortEscape?_octet e).1 hu.2⟩
    | unit a b c d => exact absurd rfl (h a b c d glyphs)

private theorem toOption_stringOctets_escape {bs rest after : Octets} {c : Char}
    {read : Option (List Char)} (he : escape bs = .ok (spelled [c], rest))
    (h : (stringOctets rest).toOption = read.map fun cs => (spelled cs, after)) :
    (stringOctets (0x5C :: bs)).toOption =
      (read.map (c :: ·)).map fun cs => (spelled cs, after) := by
  rw [stringOctets_escape he, toOption_afterOctets, h]
  cases read with
  | none => rfl
  | some more =>
    simp only [Option.map_some, spelled_cons, spelled_nil, List.append_nil]

/-- A string is read as the characters that it stands for. -/
theorem toOption_stringOctets (glyphs : List Glyph) (rest : Octets) :
    (stringOctets (spelled (glyphChars glyphs) ++ 0x22 :: rest)).toOption =
      (meaning? glyphs).map fun cs => (spelled cs, rest) := by
  fun_induction meaning? glyphs with
  | case1 =>
    rw [glyphChars, List.flatMap_nil, spelled_nil, List.nil_append, stringOctets, if_pos rfl]
    rfl
  | case2 ch notQuote notBackslash notControl glyphs ih =>
    have hplain := plain_of_mem_utf8EncodeChar notQuote notBackslash notControl
    rw [glyphChars, List.flatMap_cons, spelled_append, List.append_assoc, Glyph.chars, spelled_cons,
      spelled_nil, List.append_nil, stringOctets_plains hplain, toOption_afterOctets, ← glyphChars,
      ih]
    cases meaning? glyphs with
    | none => rfl
    | some cs => rfl
  | case3 e glyphs ih =>
    rw [glyphChars, List.flatMap_cons, spelled_append, List.append_assoc, spelled_escape]
    exact toOption_stringOctets_escape (escape_octet e _) ih
  | case4 a b c d hhigh a' b' c' d' glyphs hlow ih =>
    rw [glyphChars, List.flatMap_cons, List.flatMap_cons, spelled_append, spelled_append,
      List.append_assoc, List.append_assoc, spelled_unit]
    simp only [List.cons_append, List.nil_append]
    refine toOption_stringOctets_escape ?_ ih
    simp only [escape_high hhigh, lowSurrogate_unit, hlow, if_true]
    rfl
  | case5 a b c d hhigh a' b' c' d' glyphs hlow =>
    rw [glyphChars, List.flatMap_cons, List.flatMap_cons, spelled_append, spelled_append,
      List.append_assoc, List.append_assoc, spelled_unit]
    simp only [List.cons_append, List.nil_append]
    rw [stringOctets_escape_error (e := .malformed)]
    · rfl
    simp only [escape_high hhigh, lowSurrogate_unit, if_neg hlow]
    rfl
  | case6 a b c d glyphs hhigh hunit =>
    obtain ⟨fault, hfault⟩ := lowSurrogate_glyphChars hunit rest
    rw [glyphChars, List.flatMap_cons, spelled_append, List.append_assoc, spelled_unit]
    simp only [List.cons_append, List.nil_append]
    rw [stringOctets_escape_error (e := fault)]
    · rfl
    rw [escape_high hhigh, ← glyphChars, hfault]
    rfl
  | case7 a b c d glyphs hhigh hlow =>
    rw [glyphChars, List.flatMap_cons, spelled_append, List.append_assoc, spelled_unit]
    simp only [List.cons_append, List.nil_append]
    rw [stringOctets_escape_error (escape_low hhigh hlow)]
    rfl
  | case8 a b c d glyphs hhigh hlow ih =>
    rw [glyphChars, List.flatMap_cons, spelled_append, List.append_assoc, spelled_unit]
    exact toOption_stringOctets_escape (escape_other hhigh hlow) ih

/-- A string is read as the text that it stands for. -/
theorem toOption_stringText (glyphs : List Glyph) (rest : Octets) :
    (stringText (spelled (glyphChars glyphs) ++ 0x22 :: rest)).toOption =
      (text? glyphs).map (·, rest) := by
  have hread := toOption_stringOctets glyphs rest
  have htext : ∀ cs : List Char, Octets.text? (spelled cs) = some (String.ofList cs) := fun cs => by
    rw [← Octets.text?_ofText, Octets.ofText_ofList]
    rfl
  rw [text?, stringText]
  cases hs : stringOctets (spelled (glyphChars glyphs) ++ 0x22 :: rest) with
  | error fault =>
    rw [hs] at hread
    rw [Option.map_eq_none_iff.mp hread.symm]
    rfl
  | ok result =>
    rw [hs] at hread
    obtain ⟨cs, hcs, rfl⟩ := Option.map_eq_some_iff.mp hread.symm
    simp only [htext, hcs]
    rfl

/-! ## Values and members -/

/-- What a field reads off a value. -/
def Field.take? (field : Field) : Value → Option (Option String)
  | .string glyphs => ((text? glyphs).filter field.accepts).map some
  | .null => if field.nullable then some none else none
  | _ => none

/-- The name of a member, if it is a text, with the member's value. -/
def Member.label (member : Member Value) : Option String × Value :=
  (text? member.name, member.item.value)

/-- What a record reads off a member with a label: the content of a field, or nothing where it does
not know the name. -/
def Shape.foundUnder? (shape : Shape) (label : Option String × Value) : Option Members :=
  label.1.bind fun name =>
    match shape.fields.find? (·.name = name) with
    | some field => (field.take? label.2).map fun value => [(name, value)]
    | none => if shape.closed then none else some []

/-- What a record reads off a member. -/
def Shape.found? (shape : Shape) (member : Member Value) : Option Members :=
  shape.foundUnder? member.label

private theorem toOption_readValue_other {field : Field} {v : Value}
    (hstring : ∀ glyphs, v ≠ .string glyphs) (hnull : v ≠ .null) (before : List Blank)
    (rest : Octets) :
    (readValue field (spelled (blankChars before) ++ (spelled v.chars ++ rest))).toOption =
      none := by
  obtain ⟨b, t, hspelled, hfront⟩ := v.exists_front
  have hblanks : skipBlanks (spelled (blankChars before) ++ (spelled v.chars ++ rest)) =
      b :: (t ++ rest) := by
    rw [skipBlanks_blankChars, hspelled]
    exact skipBlanks_cons hfront.visible _
  have hquote : b ≠ 0x22 := fun h => (hfront.ofQuote h).elim hstring
  have hn : b ≠ 0x6E := fun h => hnull (hfront.ofN h)
  simp only [readValue, hblanks, hquote, hn, and_false, if_false]
  rfl

/-- A value is read as far as the field takes it. -/
theorem toOption_readValue (field : Field) (v : Value) (before : List Blank) (rest : Octets) :
    (readValue field (spelled (blankChars before) ++ (spelled v.chars ++ rest))).toOption =
      (field.take? v).map (·, rest) := by
  cases v with
  | null =>
    have hblanks : skipBlanks (spelled (blankChars before) ++ (spelled Value.null.chars ++ rest)) =
        0x6E :: 0x75 :: 0x6C :: 0x6C :: rest := by
      rw [skipBlanks_blankChars, Value.chars]
      exact skipBlanks_cons rfl _
    have hliteral : literal (Octets.ofText "ull") (0x75 :: 0x6C :: 0x6C :: rest) = .ok rest := rfl
    cases hn : field.nullable with
    | true => simp only [readValue, hblanks, hn, hliteral, Field.take?, and_self, if_true]; rfl
    | false =>
      simp only [readValue, hblanks, hn, Field.take?, Bool.false_eq_true, false_and, if_false]
      rfl
  | string glyphs =>
    have hblanks : skipBlanks (spelled (blankChars before) ++
        (spelled (Value.string glyphs).chars ++ rest)) =
          0x22 :: (spelled (glyphChars glyphs) ++ 0x22 :: rest) := by
      rw [skipBlanks_blankChars, Value.chars, spelled_quoted]
      exact skipBlanks_cons rfl _
    have hn : ¬ (field.nullable = true ∧ (0x22 : UInt8) = 0x6E) := fun h => absurd h.2 (by decide)
    have hread := toOption_stringText glyphs rest
    simp only [readValue, hblanks, if_neg hn, if_true, Field.take?]
    cases hs : stringText (spelled (glyphChars glyphs) ++ 0x22 :: rest) with
    | error fault =>
      rw [hs] at hread
      rw [Option.map_eq_none_iff.mp hread.symm]
      rfl
    | ok result =>
      rw [hs] at hread
      obtain ⟨text, htext, rfl⟩ := Option.map_eq_some_iff.mp hread.symm
      cases ha : field.accepts text with
      | true => simp [htext, ha, Except.toOption, Option.filter]
      | false => simp [htext, ha, Except.toOption, Option.filter]
  | boolean b => exact toOption_readValue_other (v := .boolean b) (by simp) (by simp) before rest
  | number n => exact toOption_readValue_other (v := .number n) (by simp) (by simp) before rest
  | array inner items =>
    exact toOption_readValue_other (v := .array inner items) (by simp) (by simp) before rest
  | object inner members =>
    exact toOption_readValue_other (v := .object inner members) (by simp) (by simp) before rest

private theorem skipColon_blankChars (gap : List Blank) (rest : Octets) :
    skipColon (spelled (blankChars gap) ++ 0x3A :: rest) = .ok rest := by
  simp only [skipColon, skipBlanks_blankChars, skipBlanks_cons (show isBlank 0x3A = false by rfl),
    if_true]

private theorem nodup_append_singleton {seen : Members} (hseen : (seen.map Prod.fst).Nodup)
    (name : String) (value : Option String) :
    ((seen ++ [(name, value)]).map Prod.fst).Nodup ↔ seen.lookup name = none := by
  rw [List.map_append, List.map_singleton, List.nodup_append, List.lookup_eq_none_iff]
  simp [hseen, eq_comm (a := name)]

/-- The octets of a member after its first quote, and those that follow it. -/
def Member.inside (member : Member Value) (rest : Octets) : Octets :=
  spelled (glyphChars member.name) ++
    0x22 :: (spelled (blankChars member.gap) ++ 0x3A :: (spelled member.item.chars ++ rest))

theorem spelled_member (member : Member Value) (rest : Octets) :
    spelled member.chars ++ rest =
      spelled (blankChars member.before) ++ 0x22 :: member.inside rest := by
  rw [Member.chars, spelled_append, List.append_assoc, spelled_labelChars, Member.inside]

/-- A member is read if it adds no name for a second time. -/
theorem toOption_readMember (shape : Shape) {seen : Members} (hseen : (seen.map Prod.fst).Nodup)
    (member : Member Value) {rest : Octets} (h : Ends rest) :
    (readMember shape seen (member.inside rest)).toOption =
      ((shape.found? member).filter fun found => ((seen ++ found).map Prod.fst).Nodup).map
        (·, spelled (blankChars member.item.after) ++ rest) := by
  have hskip := skipValue_chars member.item.value member.item.before
    (ends_blankChars h member.item.after)
  rw [Member.inside, spelled_item, readMember, toOption_bind, toOption_stringText, Shape.found?,
    Shape.foundUnder?, Member.label]
  cases text? member.name with
  | none => rfl
  | some name =>
    simp only [Option.map_some, Option.bind_some]
    cases hf : shape.fields.find? (·.name = name) with
    | none =>
      cases hc : shape.closed with
      | true => rfl
      | false =>
        simp only [Bool.false_eq_true, if_false, toOption_bind, skipColon_blankChars,
          toOption_ok, Option.bind_some, hskip, Option.filter_some, List.append_nil, hseen,
          decide_true, if_true]
        rfl
    | some field =>
      have hnodup := nodup_append_singleton hseen name
      dsimp only
      cases hl : seen.lookup name with
      | some earlier =>
        rw [Option.isSome_some, if_pos rfl]
        cases field.take? member.item.value with
        | none => rfl
        | some value =>
          simp only [Option.map_some, Option.filter_some, hnodup, hl, reduceCtorEq, decide_false,
            Bool.false_eq_true, if_false]
          rfl
      | none =>
        simp only [Option.isSome_none, Bool.false_eq_true, if_false, toOption_bind,
          skipColon_blankChars, toOption_ok, Option.bind_some, toOption_readValue]
        cases field.take? member.item.value with
        | none => rfl
        | some value =>
          simp only [Option.map_some, Option.filter_some, hnodup, hl, decide_true, if_true]
          rfl

/-! ## Objects -/

/-- The fields that a record finds in the members of an object, in their order. -/
def Shape.contents (shape : Shape) (members : List (Member Value)) : Members :=
  members.flatMap fun member => (shape.found? member).getD []

theorem Shape.contents_cons {shape : Shape} {member : Member Value} {found : Members}
    (h : shape.found? member = some found) (members : List (Member Value)) :
    shape.contents (member :: members) = found ++ shape.contents members := by
  rw [contents, List.flatMap_cons, h, Option.getD_some, contents]

/-- The octets of the members after the first, and those that follow the object. -/
private def moreMembers (members : List (Member Value)) (rest : Octets) : Octets :=
  (members.flatMap fun member => 0x2C :: spelled member.chars) ++ 0x7D :: rest

private theorem moreMembers_cons (member : Member Value) (members : List (Member Value))
    (rest : Octets) : moreMembers (member :: members) rest =
      0x2C :: (spelled (blankChars member.before) ++
        0x22 :: member.inside (moreMembers members rest)) := by
  rw [moreMembers, List.flatMap_cons, List.cons_append, List.cons_append, List.append_assoc,
    spelled_member, moreMembers]

private theorem ends_moreMembers (members : List (Member Value)) (rest : Octets) :
    Ends (moreMembers members rest) := by
  cases members with
  | nil => exact fun | _, rfl => by decide
  | cons member members => exact fun | _, rfl => by decide

/-- The fields that were read already, with those of the members to come: every member can be read,
and no field comes twice. -/
def Shape.gather? (shape : Shape) (seen : Members) (members : List (Member Value)) :
    Option Members :=
  if (∀ member ∈ members, (shape.found? member).isSome = true) ∧
      ((seen ++ shape.contents members).map Prod.fst).Nodup then
    some (seen ++ shape.contents members)
  else none

private theorem gather?_cons (shape : Shape) (seen : Members) (member : Member Value)
    (members : List (Member Value)) :
    shape.gather? seen (member :: members) =
      ((shape.found? member).filter fun found => ((seen ++ found).map Prod.fst).Nodup).bind
        fun found => shape.gather? (seen ++ found) members := by
  cases hf : shape.found? member with
  | none => simp [Shape.gather?, hf]
  | some found =>
    rw [Shape.gather?, Shape.contents_cons hf, ← List.append_assoc, Option.filter_some]
    simp only [List.forall_mem_cons, hf, Option.isSome_some, true_and]
    by_cases hdistinct : ((seen ++ found).map Prod.fst).Nodup
    · simp only [hdistinct, decide_true, if_true, Option.bind_some, Shape.gather?]
    · have hmore : ¬ ((seen ++ found ++ shape.contents members).map Prod.fst).Nodup := by
        intro h
        rw [List.map_append, List.nodup_append] at h
        exact hdistinct h.1
      simp only [hdistinct, hmore, and_false, decide_false, Bool.false_eq_true, if_false,
        Option.bind_none]

private theorem toOption_readMembers_of_member (shape : Shape) {seen : Members}
    (hseen : (seen.map Prod.fst).Nodup) {first : Bool} (member : Member Value)
    (members : List (Member Value)) {bs rest : Octets}
    (h : nextMember first bs = .ok (true, member.inside (moreMembers members rest)))
    (ih : ∀ {seen : Members}, (seen.map Prod.fst).Nodup → ∀ after : List Blank,
      (readMembers shape false seen
        (spelled (blankChars after) ++ moreMembers members rest)).toOption =
          (shape.gather? seen members).map (·, rest)) :
    (readMembers shape first seen bs).toOption =
      (shape.gather? seen (member :: members)).map (·, rest) := by
  rw [readMembers_of_member h, gather?_cons]
  refine (toOption_bind _ _).trans ?_
  rw [toOption_readMember shape hseen member (ends_moreMembers members rest)]
  cases hf : (shape.found? member).filter fun found => ((seen ++ found).map Prod.fst).Nodup with
  | none => rfl
  | some found =>
    have hdistinct : ((seen ++ found).map Prod.fst).Nodup := by
      simpa using (Option.filter_eq_some_iff.mp hf).2
    exact ih hdistinct member.item.after

/-- Members after the first are read one after the other. -/
private theorem toOption_readMembers_rest (shape : Shape) {seen : Members}
    (hseen : (seen.map Prod.fst).Nodup) (members : List (Member Value)) (after : List Blank)
    (rest : Octets) :
    (readMembers shape false seen
      (spelled (blankChars after) ++ moreMembers members rest)).toOption =
        (shape.gather? seen members).map (·, rest) := by
  induction members generalizing seen after with
  | nil =>
    have hend : nextMember false (spelled (blankChars after) ++ moreMembers [] rest) =
        .ok (false, rest) :=
      nextMember_of_brace false ((skipBlanks_blankChars _ _).trans (skipBlanks_cons rfl rest))
    rw [readMembers_of_end hend]
    simp [Shape.gather?, Shape.contents, hseen, toOption_ok]
  | cons member members ih =>
    refine toOption_readMembers_of_member shape hseen member members ?_ ih
    rw [moreMembers_cons]
    exact nextMember_of_comma ((skipBlanks_blankChars _ _).trans (skipBlanks_cons rfl _))
      ((skipBlanks_blankChars _ _).trans (skipBlanks_cons rfl _))

/-- The members of an object are read. -/
theorem toOption_readMembers (shape : Shape) (inner : List Blank) (members : List (Member Value))
    (rest : Octets) :
    (readMembers shape true [] (spelled (blankChars inner) ++
      (spelled (Text.joinWith [','] (members.map Member.chars)) ++ 0x7D :: rest))).toOption =
        (shape.gather? [] members).map (·, rest) := by
  cases members with
  | nil =>
    rw [List.map_nil, Text.joinWith, spelled_nil, List.nil_append,
      readMembers_of_end (nextMember_of_brace true
        ((skipBlanks_blankChars _ _).trans (skipBlanks_cons rfl rest)))]
    rfl
  | cons member members =>
    have hspelled : spelled (Text.joinWith [','] ((member :: members).map Member.chars)) ++
        0x7D :: rest = spelled (blankChars member.before) ++
          0x22 :: member.inside (moreMembers members rest) := by
      rw [List.map_cons, spelled_joinWith, List.flatMap_map, List.append_assoc, spelled_member,
        moreMembers]
    have hseen : (([] : Members).map Prod.fst).Nodup := List.nodup_nil
    refine toOption_readMembers_of_member shape hseen member members ?_ fun hseen after =>
      toOption_readMembers_rest shape hseen members after rest
    rw [hspelled]
    refine nextMember_of_quote ?_
    rw [skipBlanks_blankChars, skipBlanks_blankChars]
    exact skipBlanks_cons rfl _

/-! ## Arrays -/

/-- What a record reads off the elements of an array, one for each field. Optional fields at the end
may be missing. -/
def elements? : List Field → List (Item Value) → Option Members
  | [], [] => some []
  | [], _ :: _ => none
  | field :: fields, [] => if (field :: fields).all (·.optional) then some [] else none
  | field :: fields, item :: items =>
    (field.take? item.value).bind fun value =>
      (elements? fields items).map ((field.name, value) :: ·)

private theorem closeArray_of_bracket {bs rest : Octets} (h : skipBlanks bs = 0x5D :: rest) :
    closeArray bs = .ok rest := by
  simp only [closeArray, h, if_true]

private theorem toOption_closeArray {bs rest : Octets} {b : UInt8} (h : skipBlanks bs = b :: rest)
    (hb : b ≠ 0x5D) : (closeArray bs).toOption = none := by
  simp only [closeArray, h, if_neg hb]
  rfl

private theorem nextElement_of_bracket (first : Bool) {bs rest : Octets}
    (h : skipBlanks bs = 0x5D :: rest) : nextElement first bs = .ok none := by
  simp only [nextElement, h, if_true]

private theorem nextElement_of_value {bs rest : Octets} {b : UInt8} (h : skipBlanks bs = b :: rest)
    (hb : b ≠ 0x5D) : nextElement true bs = .ok (some (b :: rest)) := by
  simp only [nextElement, h, if_neg hb, if_true]

private theorem nextElement_of_comma {bs after rest : Octets} {b : UInt8}
    (h : skipBlanks bs = 0x2C :: after) (hafter : skipBlanks after = b :: rest) (hb : b ≠ 0x5D) :
    nextElement false bs = .ok (some (b :: rest)) := by
  simp only [nextElement, h, hafter, if_neg hb]
  rfl

/-- The octets of the elements after the first, and those that follow the array. -/
private def moreItems (items : List (Item Value)) (rest : Octets) : Octets :=
  (items.flatMap fun item => 0x2C :: spelled item.chars) ++ 0x5D :: rest

private theorem moreItems_cons (item : Item Value) (items : List (Item Value)) (rest : Octets) :
    moreItems (item :: items) rest = 0x2C :: (spelled item.chars ++ moreItems items rest) := by
  rw [moreItems, List.flatMap_cons, List.cons_append, List.cons_append, List.append_assoc,
    moreItems]

/-- Where an array has no more elements, reading ends. -/
private theorem toOption_readElements_end (fields : List Field) (first : Bool) {bs rest : Octets}
    (h : skipBlanks bs = 0x5D :: rest) :
    (readElements fields first bs).toOption = (elements? fields []).map (·, rest) := by
  cases fields with
  | nil =>
    rw [readElements, closeArray_of_bracket h]
    rfl
  | cons field fields =>
    rw [readElements, nextElement_of_bracket first h, elements?]
    simp only [bind, Except.bind, closeArray_of_bracket h]
    split
    · rfl
    · rfl

private theorem toOption_readElements_of_item (fields : List Field) {first : Bool}
    (item : Item Value) (items : List (Item Value)) {bs rest : Octets}
    (hnext : nextElement first bs = .ok (some (spelled item.value.chars ++
      (spelled (blankChars item.after) ++ moreItems items rest))))
    (hclose : (closeArray bs).toOption = none)
    (ih : ∀ (fields : List Field) (after : List Blank),
      (readElements fields false (spelled (blankChars after) ++ moreItems items rest)).toOption =
        (elements? fields items).map (·, rest)) :
    (readElements fields first bs).toOption =
      (elements? fields (item :: items)).map (·, rest) := by
  cases fields with
  | nil =>
    rw [readElements, toOption_bind, hclose]
    rfl
  | cons field fields =>
    have hread := toOption_readValue field item.value []
      (spelled (blankChars item.after) ++ moreItems items rest)
    rw [readElements, hnext, toOption_bind, elements?]
    rw [blankChars, List.map_nil, spelled_nil, List.nil_append] at hread
    simp only [toOption_ok, Option.bind_some, toOption_bind, hread, Option.bind_map,
      Function.comp_def, ih]
    cases field.take? item.value with
    | none => rfl
    | some value =>
      cases elements? fields items with
      | none => rfl
      | some found => rfl

/-- Where an element stands, and that no array ends there. -/
private theorem front_item (item : Item Value) (rest : Octets) :
    ∃ b t, skipBlanks (spelled item.chars ++ rest) = b :: t ∧ b ≠ 0x5D ∧
      b :: t = spelled item.value.chars ++ (spelled (blankChars item.after) ++ rest) := by
  obtain ⟨b, t, hspelled, hfront⟩ := item.value.exists_front
  refine ⟨b, t ++ (spelled (blankChars item.after) ++ rest), ?_, hfront.notClosing.1, ?_⟩
  · rw [spelled_item, skipBlanks_blankChars, hspelled]
    exact skipBlanks_cons hfront.visible _
  · rw [hspelled, List.cons_append]

/-- Elements after the first are read one after the other. -/
private theorem toOption_readElements_rest (fields : List Field) (items : List (Item Value))
    (after : List Blank) (rest : Octets) :
    (readElements fields false (spelled (blankChars after) ++ moreItems items rest)).toOption =
      (elements? fields items).map (·, rest) := by
  induction items generalizing fields after with
  | nil =>
    exact toOption_readElements_end fields false
      ((skipBlanks_blankChars _ _).trans (skipBlanks_cons rfl rest))
  | cons item items ih =>
    obtain ⟨b, t, hfront, hb, ht⟩ := front_item item (moreItems items rest)
    have hcomma : skipBlanks (spelled (blankChars after) ++ moreItems (item :: items) rest) =
        0x2C :: (spelled item.chars ++ moreItems items rest) := by
      rw [skipBlanks_blankChars, moreItems_cons]
      exact skipBlanks_cons rfl _
    refine toOption_readElements_of_item fields item items ?_ ?_ ih
    · rw [nextElement_of_comma hcomma hfront hb, ht]
    · exact toOption_closeArray hcomma (by decide)

/-- The elements of an array are read. -/
theorem toOption_readElements (fields : List Field) (inner : List Blank)
    (items : List (Item Value)) (rest : Octets) :
    (readElements fields true (spelled (blankChars inner) ++
      (spelled (Text.joinWith [','] (items.map Item.chars)) ++ 0x5D :: rest))).toOption =
        (elements? fields items).map (·, rest) := by
  cases items with
  | nil =>
    refine toOption_readElements_end fields true ?_
    rw [skipBlanks_blankChars, List.map_nil, Text.joinWith, spelled_nil, List.nil_append]
    exact skipBlanks_cons rfl rest
  | cons item items =>
    obtain ⟨b, t, hfront, hb, ht⟩ := front_item item (moreItems items rest)
    have hblanks : skipBlanks (spelled (blankChars inner) ++
        (spelled (Text.joinWith [','] ((item :: items).map Item.chars)) ++ 0x5D :: rest)) =
          b :: t := by
      rw [skipBlanks_blankChars, List.map_cons, spelled_joinWith, List.flatMap_map,
        List.append_assoc, ← hfront, moreItems]
    refine toOption_readElements_of_item fields item items ?_ ?_ fun fields after =>
      toOption_readElements_rest fields items after rest
    · rw [nextElement_of_value hblanks hb, ht]
    · exact toOption_closeArray hblanks hb

/-! ## Documents -/

/-- What a record reads off a value. -/
def Shape.holds? (shape : Shape) : Value → Option Members
  | .object _ members => (shape.gather? [] members).filter shape.isCovered
  | .array _ items => elements? shape.fields items
  | _ => none

private theorem toOption_readFront_other (shape : Shape) {v : Value} {bs rest : Octets}
    (harray : ∀ inner items, v ≠ .array inner items)
    (hobject : ∀ inner members, v ≠ .object inner members)
    (h : skipBlanks bs = spelled v.chars ++ rest) : (shape.readFront bs).toOption = none := by
  obtain ⟨b, t, hspelled, hfront⟩ := v.exists_front
  have hbracket : b ≠ 0x5B := fun hb =>
    have ⟨inner, items, hv⟩ := hfront.ofBracket hb
    harray inner items hv
  have hbrace : b ≠ 0x7B := fun hb =>
    have ⟨inner, members, hv⟩ := hfront.ofBrace hb
    hobject inner members hv
  rw [hspelled, List.cons_append] at h
  simp only [Shape.readFront, h, if_neg hbracket, if_neg hbrace]
  rfl

private theorem toOption_readFront (shape : Shape) (v : Value) {bs rest : Octets}
    (h : skipBlanks bs = spelled v.chars ++ rest) :
    (shape.readFront bs).toOption = (shape.holds? v).map (·, rest) := by
  cases v with
  | array inner items =>
    rw [spelled_array] at h
    simp only [Shape.readFront, h, if_true, show ¬ (0x5B : UInt8) = 0x7B by decide, if_false,
      toOption_readElements, Shape.holds?]
  | object inner members =>
    rw [spelled_object] at h
    simp only [Shape.readFront, h, if_true, toOption_bind, toOption_readMembers, Shape.holds?]
    cases shape.gather? [] members with
    | none => rfl
    | some found =>
      rw [Option.map_some, Option.bind_some, Option.filter_some]
      split
      · rfl
      · rfl
  | null => exact toOption_readFront_other (v := .null) shape (by simp) (by simp) h
  | boolean b => exact toOption_readFront_other (v := .boolean b) shape (by simp) (by simp) h
  | number n => exact toOption_readFront_other (v := .number n) shape (by simp) (by simp) h
  | string glyphs => exact toOption_readFront_other (v := .string glyphs) shape (by simp) (by simp) h

/-- A record is read off a document as the document's value says. -/
theorem toOption_read (shape : Shape) (d : Document) :
    (shape.read d.octets).toOption = shape.holds? d.value := by
  have hfront : skipBlanks d.octets =
      spelled d.value.chars ++ spelled (blankChars d.after) := by
    obtain ⟨b, t, hspelled, hfront⟩ := d.value.exists_front
    rw [Document.octets, Octets.ofText_ofList]
    change skipBlanks (spelled d.chars) = _
    rw [Item.chars, padded, spelled_append, spelled_append, skipBlanks_blankChars, hspelled]
    exact skipBlanks_cons hfront.visible _
  have hafter : skipBlanks (spelled (blankChars d.after)) = [] := by
    rw [← List.append_nil (spelled _), skipBlanks_blankChars]
    rfl
  rw [Shape.read, toOption_bind, toOption_readFront shape d.value hfront]
  cases shape.holds? d.value with
  | none => rfl
  | some members =>
    simp only [Option.map_some, Option.bind_some, hafter, if_true]
    rfl

theorem Shape.read_eq_ok_iff {shape : Shape} {d : Document} {found : Members} :
    shape.read d.octets = .ok found ↔ shape.holds? d.value = some found := by
  rw [← toOption_read]
  cases shape.read d.octets with
  | error fault => simp [Except.toOption]
  | ok members => simp [Except.toOption]

/-- The members of an object that a record takes: each can be read, no field comes twice, and none
is missing that is not optional. -/
structure Shape.Accepts (shape : Shape) (members : List (Member Value)) : Prop where
  readable : ∀ member ∈ members, (shape.found? member).isSome = true
  distinct : ((shape.contents members).map Prod.fst).Nodup
  covered : shape.isCovered (shape.contents members) = true

/-- A record is read off an object if it takes the members. -/
theorem Shape.read_object_eq_ok_iff {shape : Shape} {d : Document} {inner : List Blank}
    {members : List (Member Value)} {found : Members} (h : d.value = .object inner members) :
    shape.read d.octets = .ok found ↔ shape.Accepts members ∧ shape.contents members = found := by
  rw [read_eq_ok_iff, h, holds?, Option.filter_eq_some_iff, gather?]
  constructor
  · rintro ⟨hg, hc⟩
    split at hg
    · next hr =>
      obtain rfl := Option.some.inj hg
      exact ⟨⟨hr.1, hr.2, hc⟩, rfl⟩
    · cases hg
  · rintro ⟨ha, rfl⟩
    exact ⟨if_pos ⟨ha.readable, ha.distinct⟩, ha.covered⟩

end SignOn.Json
