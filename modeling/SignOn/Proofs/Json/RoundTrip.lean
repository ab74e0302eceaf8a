import Mathlib.Data.List.Forall2
import SignOn.Json.Record
import SignOn.Json.Write
import SignOn.Proofs.Text.Utf8

/-!
# Records that are read back

A written record is read back as it was: strings character by character, through every escape, then
members, then the whole record. `Shape.Fits` says which members a shape takes.
-/

namespace SignOn.Json

/-- The octets of characters. -/
def spelled (cs : List Char) : Octets := cs.flatMap String.utf8EncodeChar

@[simp] theorem spelled_nil : spelled [] = [] := rfl

@[simp] theorem spelled_cons (c : Char) (cs : List Char) :
    spelled (c :: cs) = String.utf8EncodeChar c ++ spelled cs := rfl

@[simp] theorem spelled_append (cs ds : List Char) :
    spelled (cs ++ ds) = spelled cs ++ spelled ds := List.flatMap_append

/-! ## Strings -/

/-- The reading of a string that goes on after some octets that are read already. -/
def afterOctets (octets : Octets) (result : Except Fault (Octets × Octets)) :
    Except Fault (Octets × Octets) :=
  result.map fun (more, rest) => (octets ++ more, rest)

private theorem stringOctets_plain {b : UInt8} (hq : b ≠ 0x22) (hs : b ≠ 0x5C) (hb : ¬ b < 0x20)
    (rest : Octets) : stringOctets (b :: rest) = afterOctets [b] (stringOctets rest) := by
  rw [stringOctets, if_neg hq, if_neg hs, if_neg hb, afterOctets]
  cases stringOctets rest with
  | error fault => rfl
  | ok result => rfl

/-- Octets that stand for themselves are read as they are. -/
theorem stringOctets_plains {bs : Octets}
    (h : ∀ b ∈ bs, b ≠ 0x22 ∧ b ≠ 0x5C ∧ ¬ b < 0x20) (rest : Octets) :
    stringOctets (bs ++ rest) = afterOctets bs (stringOctets rest) := by
  induction bs with
  | nil =>
    cases hr : stringOctets rest with
    | error fault => rw [List.nil_append, hr]; rfl
    | ok result => rw [List.nil_append, hr]; rfl
  | cons b bs ih =>
    obtain ⟨hq, hs, hb⟩ := h b List.mem_cons_self
    rw [List.cons_append, stringOctets_plain hq hs hb,
      ih fun x hx => h x (List.mem_cons_of_mem _ hx)]
    cases stringOctets rest with
    | error fault => rfl
    | ok result => rfl

/-- An escape is read as what it stands for. -/
theorem stringOctets_escape {bs octets rest : Octets} (h : escape bs = .ok (octets, rest)) :
    stringOctets (0x5C :: bs) = afterOctets octets (stringOctets rest) := by
  rw [stringOctets, if_neg (by decide), if_pos rfl]
  split
  · next he =>
    rw [h] at he
    cases he
    cases stringOctets rest with
    | error fault => rfl
    | ok result => rfl
  · next he =>
    rw [h] at he
    cases he

private theorem escape_unit {c : Char} (h : c.toNat < 0x20) (rest : Octets) :
    escape (spelled ['u', '0', '0', Text.lowerHex (c.toNat / 16), Text.lowerHex (c.toNat % 16)] ++
      rest) = .ok (String.utf8EncodeChar c, rest) := by
  have hunit : ∀ n < 0x20, hexUnit? 0x30 0x30 (Text.lowerHex (n / 16)).toNat.toUInt8
      (Text.lowerHex (n % 16)).toNat.toUInt8 = some n := by decide
  have hascii : ∀ n < 16, String.utf8EncodeChar (Text.lowerHex n) =
      [(Text.lowerHex n).toNat.toUInt8] := by decide
  have hspelled : spelled ['u', '0', '0', Text.lowerHex (c.toNat / 16),
      Text.lowerHex (c.toNat % 16)] =
        0x75 :: 0x30 :: 0x30 :: [(Text.lowerHex (c.toNat / 16)).toNat.toUInt8,
          (Text.lowerHex (c.toNat % 16)).toNat.toUInt8] := by
    simp only [spelled_cons, spelled_nil, hascii _ (show c.toNat / 16 < 16 by omega),
      hascii _ (show c.toNat % 16 < 16 by omega)]
    rfl
  have hhigh : isHighSurrogate c.toNat = false := by simp [isHighSurrogate]; omega
  have hlow : isLowSurrogate c.toNat = false := by simp [isLowSurrogate]; omega
  rw [hspelled]
  simp only [List.cons_append, List.nil_append, escape, numericEscape, hexUnit, hunit _ h, hhigh,
    hlow, if_true, Bool.false_eq_true, if_false, Char.ofNat_toNat]

/-- The octets of a character that is no quote, no backslash and no control are none either. -/
theorem plain_of_mem_utf8EncodeChar {c : Char} (hq : c ≠ '"') (hs : c ≠ '\\')
    (hc : 0x20 ≤ c.toNat) : ∀ b ∈ String.utf8EncodeChar c, b ≠ 0x22 ∧ b ≠ 0x5C ∧ ¬ b < 0x20 := by
  intro b hb
  -- an octet of ASCII is the character itself, and any other one is none of the three
  by_cases hlow : b < 0x80
  · have hn := Octets.eq_of_mem_utf8EncodeChar hb hlow
    have hne : ∀ d : Char, c ≠ d → ∀ a : UInt8, a.toNat = d.toNat → b ≠ a := by
      rintro d hcd a had rfl
      exact hcd (Char.toNat_inj.mp (hn.trans had))
    refine ⟨hne '"' hq 0x22 rfl, hne '\\' hs 0x5C rfl, ?_⟩
    rw [UInt8.lt_iff_toNat_lt, ← hn]
    exact Nat.not_lt.mpr hc
  · rw [UInt8.lt_iff_toNat_lt] at hlow
    simp only [UInt8.lt_iff_toNat_lt, ne_eq, ← UInt8.toNat_inj, UInt8.reduceToNat] at hlow ⊢
    omega

/-- Every character of a written string is read back. -/
theorem stringOctets_escapeChar (c : Char) (rest : Octets) :
    stringOctets (spelled (escapeChar c) ++ rest) =
      afterOctets (String.utf8EncodeChar c) (stringOctets rest) := by
  unfold escapeChar
  split
  · next h => subst h; exact stringOctets_escape rfl
  split
  · next h => subst h; exact stringOctets_escape rfl
  split
  · next h => subst h; exact stringOctets_escape rfl
  split
  · next h => subst h; exact stringOctets_escape rfl
  split
  · next h => subst h; exact stringOctets_escape rfl
  split
  · next h => subst h; exact stringOctets_escape rfl
  split
  · next h => subst h; exact stringOctets_escape rfl
  split
  · next h => exact stringOctets_escape (escape_unit h rest)
  · next hq hs _ _ _ _ _ hc =>
    rw [spelled_cons, spelled_nil, List.append_nil]
    exact stringOctets_plains (plain_of_mem_utf8EncodeChar hq hs (Nat.not_lt.mp hc)) rest

/-- A written string is read back. -/
theorem stringText_writeString (s : String) (rest : Octets) :
    stringText (spelled (s.toList.flatMap escapeChar) ++ 0x22 :: rest) = .ok (s, rest) := by
  have hoctets : ∀ cs : List Char, stringOctets (spelled (cs.flatMap escapeChar) ++ 0x22 :: rest) =
      .ok (spelled cs, rest) := by
    intro cs
    induction cs with
    | nil =>
      rw [List.flatMap_nil, spelled_nil, List.nil_append, stringOctets, if_pos rfl]
    | cons c cs ih =>
      rw [List.flatMap_cons, spelled_append, List.append_assoc, stringOctets_escapeChar, ih]
      rfl
  have htext : Octets.text? (spelled s.toList) = some s := Octets.text?_ofText s
  simp only [stringText, hoctets, htext]

/-! ## Members -/

/-- Whether a field takes a value. -/
def Field.Takes (field : Field) : Option String → Prop
  | some text => field.accepts text = true
  | none => field.nullable = true

/-- Nothing is passed over in front of an octet that is no blank. -/
theorem skipBlanks_cons {b : UInt8} (h : isBlank b = false) (rest : Octets) :
    skipBlanks (b :: rest) = b :: rest := by
  rw [skipBlanks, List.dropWhile_cons_of_neg (by simp [h])]

/-- A written string with its quotes, before what follows it. -/
private theorem spelled_writeString (s : String) (rest : Octets) :
    spelled (writeString s) ++ rest =
      0x22 :: (spelled (s.toList.flatMap escapeChar) ++ 0x22 :: rest) := by
  rw [writeString, spelled_append, List.append_assoc]
  rfl

/-- A written value is read back by a field that takes it. -/
theorem readValue_writeOption {field : Field} {value : Option String} (h : field.Takes value)
    (rest : Octets) :
    readValue field (spelled (writeOption value) ++ rest) = .ok (value, rest) := by
  cases value with
  | none =>
    have hspelled : spelled (writeOption none) ++ rest = 0x6E :: 0x75 :: 0x6C :: 0x6C :: rest := rfl
    have hliteral : literal (Octets.ofText "ull") (0x75 :: 0x6C :: 0x6C :: rest) = .ok rest := by
      rfl
    have hn : field.nullable = true := h
    rw [hspelled, readValue, skipBlanks_cons (by decide)]
    simp only [hn, hliteral, and_self, if_true]
  | some text =>
    have ha : field.accepts text = true := h
    rw [writeOption, spelled_writeString, readValue, skipBlanks_cons (by decide)]
    simp only [stringText_writeString, ha, if_true]
    rw [if_neg (by simp)]

/-- A written member is read back, from after its first quote. -/
theorem readMember_writeMember {shape : Shape} {seen : Members} {name : String}
    {value : Option String} {field : Field}
    (hfield : shape.fields.find? (·.name = name) = some field)
    (htakes : field.Takes value) (hseen : seen.lookup name = none) (rest : Octets) :
    readMember shape seen (spelled (name.toList.flatMap escapeChar) ++
      0x22 :: 0x3A :: (spelled (writeOption value) ++ rest)) = .ok ([(name, value)], rest) := by
  have hcolon : skipColon (0x3A :: (spelled (writeOption value) ++ rest)) =
      .ok (spelled (writeOption value) ++ rest) := by
    rw [skipColon, skipBlanks_cons (by decide)]
    rfl
  simp only [readMember, stringText_writeString, bind, Except.bind, hfield, hseen, hcolon,
    readValue_writeOption htakes, Option.isSome_none, Bool.false_eq_true, if_false, pure,
    Except.pure]

/-! ## Records -/

/-- The members that a shape takes: no name twice, a field that takes the value for every name, and
none missing that is not optional. -/
structure Shape.Fits (shape : Shape) (members : Members) : Prop where
  distinct : (members.map Prod.fst).Nodup
  taken : ∀ member ∈ members, ∃ field, shape.fields.find? (·.name = member.1) = some field ∧
    field.Takes member.2
  covered : shape.isCovered members = true

/-- Where field names are different, a name stands for its field. -/
theorem find?_name_eq_some_iff {fields : List Field} (h : (fields.map Field.name).Nodup)
    {name : String} {field : Field} :
    fields.find? (·.name = name) = some field ↔ field ∈ fields ∧ field.name = name := by
  constructor
  · intro hf
    have hname := List.find?_some hf
    exact ⟨List.mem_of_find?_eq_some hf, by simpa using hname⟩
  · rintro ⟨hm, rfl⟩
    induction fields with
    | nil => cases hm
    | cons other fields ih =>
      obtain ⟨hnew, hrest⟩ := List.nodup_cons.mp h
      rcases List.mem_cons.mp hm with rfl | hm
      · exact List.find?_cons_of_pos (by simp)
      · have hname : other.name ≠ field.name := fun hname =>
          hnew (hname ▸ List.mem_map_of_mem hm)
        rw [List.find?_cons_of_neg (by simp [hname]), ih hrest hm]

@[simp] theorem Field.takes_some {field : Field} {text : String} :
    field.Takes (some text) ↔ field.accepts text = true := Iff.rfl

/-- A field that takes every text and `null` takes everything. -/
theorem Field.takes_of_nullable {field : Field} (hn : field.nullable = true)
    (ha : ∀ text, field.accepts text = true) (value : Option String) : field.Takes value := by
  cases value with
  | none => exact hn
  | some text => exact ha text

/-- A shape takes members that stand for its fields one by one. -/
theorem Shape.Fits.of_forall₂ {shape : Shape} {members : Members}
    (hd : (shape.fields.map Field.name).Nodup)
    (h : List.Forall₂ (fun field member => member.1 = field.name ∧ field.Takes member.2)
      shape.fields members) : shape.Fits members := by
  have hnames : members.map Prod.fst = shape.fields.map Field.name := by
    rw [← List.forall₂_eq_eq_eq, List.forall₂_map_left_iff, List.forall₂_map_right_iff]
    exact h.flip.imp fun _ _ hsame => hsame.1
  refine ⟨hnames ▸ hd, fun member hm => ?_, ?_⟩
  · obtain ⟨i, hi, rfl⟩ := List.getElem_of_mem hm
    have hlength := h.length_eq
    obtain ⟨hname, htakes⟩ := h.get (by omega) hi
    exact ⟨_, (find?_name_eq_some_iff hd).mpr ⟨List.getElem_mem _, hname.symm⟩, htakes⟩
  · refine List.all_eq_true.mpr fun field hf => ?_
    have hname : field.name ∈ members.map Prod.fst := hnames ▸ List.mem_map_of_mem hf
    obtain ⟨member, hm, hsame⟩ := List.mem_map.mp hname
    have hfound : (members.lookup field.name).isSome = true :=
      List.lookup_isSome_iff.mpr ⟨member, hm, by rw [hsame, beq_self_eq_true]⟩
    rw [hfound, Bool.or_true]

/-- A written member, before what follows it. -/
private theorem spelled_writeMember (member : String × Option String) (rest : Octets) :
    spelled (writeMember member) ++ rest =
      0x22 :: (spelled (member.1.toList.flatMap escapeChar) ++
        0x22 :: 0x3A :: (spelled (writeOption member.2) ++ rest)) := by
  rw [writeMember, spelled_append, List.append_assoc, spelled_writeString]
  rfl

section

variable {shape : Shape} {first : Bool} {seen : Members} {bs after rest : Octets}

/-- No member comes after a closing brace. -/
theorem nextMember_of_brace (first : Bool) (h : skipBlanks bs = 0x7D :: rest) :
    nextMember first bs = .ok (false, rest) := by
  simp only [nextMember, h, if_true]

/-- The first member begins with a quote. -/
theorem nextMember_of_quote (h : skipBlanks bs = 0x22 :: rest) :
    nextMember true bs = .ok (true, rest) := by
  simp only [nextMember, h]
  rfl

/-- Every other member begins with a quote after a comma. -/
theorem nextMember_of_comma (h : skipBlanks bs = 0x2C :: after)
    (hafter : skipBlanks after = 0x22 :: rest) : nextMember false bs = .ok (true, rest) := by
  simp only [nextMember, h, hafter]
  rfl

/-- Reading ends where no member comes. -/
theorem readMembers_of_end (h : nextMember first bs = .ok (false, rest)) :
    readMembers shape first seen bs = .ok (seen, rest) := by
  rw [readMembers]
  split
  · next he => cases h.symm.trans he
  · next he =>
    cases h.symm.trans he
    rfl
  · next he => cases h.symm.trans he

/-- A member is read, and then those after it. -/
theorem readMembers_of_member (h : nextMember first bs = .ok (true, rest)) :
    readMembers shape first seen bs = (readMember shape seen rest).bind fun found =>
      readMembers shape false (seen ++ found.1) found.2 := by
  rw [readMembers]
  split
  · next he => cases h.symm.trans he
  · next he => cases h.symm.trans he
  · next he =>
    cases h.symm.trans he
    split
    · next hr => simp only [hr, Except.bind]
    · next hr => simp only [hr, Except.bind]

end

/-- Members after the first are read back one after the other. -/
private theorem readMembers_append {shape : Shape} {seen members : Members}
    (hdistinct : ((seen ++ members).map Prod.fst).Nodup)
    (htaken : ∀ member ∈ members, ∃ field,
      shape.fields.find? (·.name = member.1) = some field ∧ field.Takes member.2)
    (rest : Octets) :
    readMembers shape false seen
      ((members.flatMap fun member => 0x2C :: spelled (writeMember member)) ++ 0x7D :: rest) =
        .ok (seen ++ members, rest) := by
  induction members generalizing seen with
  | nil =>
    rw [List.flatMap_nil, List.nil_append, List.append_nil,
      readMembers_of_end (nextMember_of_brace false (skipBlanks_cons (by decide) rest))]
  | cons member members ih =>
    obtain ⟨name, value⟩ := member
    obtain ⟨field, hfield, htakes⟩ := htaken (name, value) List.mem_cons_self
    have hseen : seen.lookup name = none := by
      rw [List.lookup_eq_none_iff]
      intro p hp
      rw [List.map_append, List.nodup_append] at hdistinct
      have hne := hdistinct.2.2 p.1 (List.mem_map_of_mem hp) name (by simp)
      simpa using Ne.symm hne
    have happ : seen ++ (name, value) :: members = (seen ++ [(name, value)]) ++ members := by simp
    have hnext : nextMember false (0x2C :: (spelled (writeMember (name, value)) ++
        ((members.flatMap fun member => 0x2C :: spelled (writeMember member)) ++ 0x7D :: rest))) =
          .ok (true, spelled (name.toList.flatMap escapeChar) ++
            0x22 :: 0x3A :: (spelled (writeOption value) ++
              ((members.flatMap fun member => 0x2C :: spelled (writeMember member)) ++
                0x7D :: rest))) := by
      refine nextMember_of_comma (skipBlanks_cons (by decide) _) ?_
      rw [spelled_writeMember]
      exact skipBlanks_cons (by decide) _
    rw [List.flatMap_cons, List.cons_append, List.cons_append, List.append_assoc,
      readMembers_of_member hnext, readMember_writeMember hfield htakes hseen, Except.bind,
      ih (happ ▸ hdistinct) fun m hm => htaken m (List.mem_cons_of_mem _ hm), happ]

/-- The octets of a list with commas. -/
theorem spelled_joinWith (entry : List Char) (entries : List (List Char)) :
    spelled (Text.joinWith [','] (entry :: entries)) =
      spelled entry ++ entries.flatMap fun entry => 0x2C :: spelled entry := by
  induction entries generalizing entry with
  | nil => simp [Text.joinWith]
  | cons next entries ih =>
    rw [Text.joinWith, spelled_append, spelled_append, ih, List.flatMap_cons, List.append_assoc]
    rfl

/-- The members of a written record are read back. -/
private theorem readMembers_joinWith {shape : Shape} {members : Members} (h : shape.Fits members)
    (rest : Octets) :
    readMembers shape true []
      (spelled (Text.joinWith [','] (members.map writeMember)) ++ 0x7D :: rest) =
        .ok (members, rest) := by
  cases members with
  | nil => exact readMembers_of_end (nextMember_of_brace true (skipBlanks_cons (by decide) rest))
  | cons member members =>
    obtain ⟨name, value⟩ := member
    obtain ⟨field, hfield, htakes⟩ := h.taken (name, value) List.mem_cons_self
    rw [List.map_cons, spelled_joinWith, List.flatMap_map, List.append_assoc, spelled_writeMember,
      readMembers_of_member (nextMember_of_quote (skipBlanks_cons (by decide) _)),
      readMember_writeMember hfield htakes rfl, Except.bind, List.nil_append,
      readMembers_append h.distinct (fun m hm => h.taken m (List.mem_cons_of_mem _ hm))]
    rfl

/-- A written record whose members fit a shape is read back. -/
theorem read_writeRecord {shape : Shape} {members : Members} (h : shape.Fits members) :
    shape.read (Octets.ofText (writeRecord members)) = .ok members := by
  have hspelled : Octets.ofText (writeRecord members) =
      0x7B :: (spelled (Text.joinWith [','] (members.map writeMember)) ++ [0x7D]) := by
    rw [writeRecord, Octets.ofText_ofList]
    exact spelled_append ('\x7b' :: Text.joinWith [','] (members.map writeMember)) ['\x7d']
  rw [hspelled, Shape.read, Shape.readFront, skipBlanks_cons (by decide)]
  simp only [if_true, bind, Except.bind, readMembers_joinWith h, h.covered, pure, Except.pure]
  rfl

end SignOn.Json
