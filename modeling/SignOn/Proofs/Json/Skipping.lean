import SignOn.Proofs.Json.Grammar

/-!
# Passing over every value

A reader passes over a value of any kind, depth and spelling, and stands right behind it
(`skipValue_chars`). Only a number needs to know what comes next, so that it ends where it should.
-/

namespace SignOn.Json

/-! ## Blanks -/

theorem spelled_blank (blank : Blank) : ∃ b, spelled [blank.char] = [b] ∧ isBlank b = true := by
  cases blank with
  | space => exact ⟨0x20, rfl, rfl⟩
  | tab => exact ⟨0x09, rfl, rfl⟩
  | lineFeed => exact ⟨0x0A, rfl, rfl⟩
  | carriageReturn => exact ⟨0x0D, rfl, rfl⟩

/-- Blanks are passed over. -/
@[simp] theorem skipBlanks_blankChars (blanks : List Blank) (bs : Octets) :
    skipBlanks (spelled (blankChars blanks) ++ bs) = skipBlanks bs := by
  induction blanks with
  | nil => rfl
  | cons blank blanks ih =>
    obtain ⟨b, hb, hblank⟩ := spelled_blank blank
    rw [blankChars, List.map_cons, ← List.singleton_append, spelled_append, hb, List.append_assoc,
      List.singleton_append, skipBlanks, List.dropWhile_cons_of_pos hblank]
    exact ih

/-- What is left after blanks begins with none. -/
theorem isBlank_of_skipBlanks {bs rest : Octets} {b : UInt8} (h : skipBlanks bs = b :: rest) :
    isBlank b = false := by
  have hhead := List.head?_dropWhile_not isBlank bs
  rw [show bs.dropWhile isBlank = b :: rest from h] at hhead
  simpa using hhead

/-- Whether a value may end here: before a blank, a comma, a closing bracket or the end. -/
def Ends (bs : Octets) : Prop :=
  ∀ b ∈ bs.head?, isBlank b = true ∨ b = 0x2C ∨ b = 0x5D ∨ b = 0x7D

theorem ends_blankChars {bs : Octets} (h : Ends bs) (blanks : List Blank) :
    Ends (spelled (blankChars blanks) ++ bs) := by
  cases blanks with
  | nil => exact h
  | cons blank blanks =>
    obtain ⟨b, hb, hblank⟩ := spelled_blank blank
    rw [blankChars, List.map_cons, ← List.singleton_append, spelled_append, hb, List.append_assoc]
    rintro c ⟨⟩
    exact .inl hblank

/-! ## Numbers -/

/-- The octet of a decimal digit. -/
def digitOctet (d : Fin 10) : UInt8 := (Nat.digitChar d).toNat.toUInt8

theorem digit?_digitOctet : ∀ d : Fin 10, digit? (digitOctet d) = some d.val := by decide

theorem isDigit_digitOctet (d : Fin 10) : isDigit (digitOctet d) = true := by
  rw [isDigit, digit?_digitOctet]
  rfl

theorem spelled_digitChars (ds : List (Fin 10)) : spelled (digitChars ds) = ds.map digitOctet := by
  have hdigit : ∀ d : Fin 10, String.utf8EncodeChar (Nat.digitChar d) = [digitOctet d] := by decide
  induction ds with
  | nil => rfl
  | cons d ds ih =>
    rw [digitChars, List.map_cons, spelled_cons, hdigit, List.map_cons, ← ih]
    rfl

/-- Digits are read up to what is no digit. -/
theorem digits_digitChars (ds : List (Fin 10)) {rest : Octets}
    (h : ∀ b ∈ rest.head?, isDigit b = false) :
    digits (spelled (digitChars ds) ++ rest) = (ds.map Fin.val, rest) := by
  have hall : ∀ b ∈ ds.map digitOctet, isDigit b = true :=
    List.forall_mem_map.mpr fun d _ => isDigit_digitOctet d
  have htake : rest.takeWhile isDigit = [] := by
    cases rest with
    | nil => rfl
    | cons b rest => exact List.takeWhile_cons_of_neg (by simp [h b rfl])
  have hdrop : rest.dropWhile isDigit = rest := by
    cases rest with
    | nil => rfl
    | cons b rest => exact List.dropWhile_cons_of_neg (by simp [h b rfl])
  have hread : ∀ ds : List (Fin 10), (ds.map digitOctet).filterMap digit? = ds.map Fin.val := by
    intro ds
    induction ds with
    | nil => rfl
    | cons d ds ih =>
      rw [List.map_cons, List.filterMap_cons_some (digit?_digitOctet d), ih, List.map_cons]
  rw [digits, spelled_digitChars, List.takeWhile_append_of_pos hall,
    List.dropWhile_append_of_pos hall, htake, hdrop, List.append_nil, hread]

theorem someDigits_digitChars (early : Fault) (d : Fin 10) (ds : List (Fin 10)) {rest : Octets}
    (h : ∀ b ∈ rest.head?, isDigit b = false) :
    someDigits early (spelled (digitChars (d :: ds)) ++ rest) =
      .ok (d.val :: ds.map Fin.val, rest) := by
  have hread := digits_digitChars (d :: ds) h
  have hfront : spelled (digitChars (d :: ds)) ++ rest =
      digitOctet d :: (spelled (digitChars ds) ++ rest) := by
    rw [spelled_digitChars, spelled_digitChars]
    rfl
  rw [hfront] at hread ⊢
  rw [someDigits, if_pos (isDigit_digitOctet d), hread]
  rfl

theorem integerPart_chars (early : Fault) (whole : Whole) {rest : Octets}
    (h : ∀ b ∈ rest.head?, isDigit b = false) :
    ∃ ds, integerPart early (spelled whole.chars ++ rest) = .ok (ds, rest) := by
  cases whole with
  | zero =>
    have hread := someDigits_digitChars early 0 [] h
    exact ⟨[0], by rw [integerPart, Whole.chars, show ['0'] = digitChars [0] from rfl, hread]; rfl⟩
  | other first notZero more =>
    refine ⟨first.val :: more.map Fin.val, ?_⟩
    rw [integerPart, Whole.chars, someDigits_digitChars early first more h]
    split
    · next heq =>
      obtain ⟨hzero, -⟩ := List.cons.inj (Prod.mk.inj (Except.ok.inj heq)).1
      exact absurd (Fin.ext hzero) notZero
    · rfl

theorem fractionPart_chars (early : Fault) (fraction : Option Digits) {rest : Octets}
    (h : ∀ b ∈ rest.head?, isDigit b = false ∧ b ≠ 0x2E) :
    ∃ ds, fractionPart early (spelled (fraction.elim [] fun ds => '.' :: ds.chars) ++ rest) =
      .ok (ds, rest) := by
  cases fraction with
  | none =>
    refine ⟨[], ?_⟩
    cases rest with
    | nil => rfl
    | cons b rest => exact if_neg (h b rfl).2
  | some ds =>
    have hread := someDigits_digitChars early ds.first ds.more fun b hb => (h b hb).1
    exact ⟨_, hread⟩

private theorem exponentPart_cons {early : Fault} {b : UInt8} (hb : b = 0x65 ∨ b = 0x45)
    {tail rest : Octets} {ds : List Nat} (h : someDigits early
      (if tail.head? = some 0x2D ∨ tail.head? = some 0x2B then tail.tail else tail) =
        .ok (ds, rest)) :
    exponentPart early (b :: tail) = .ok (decide (tail.head? = some 0x2D), ds, rest) := by
  rw [exponentPart, if_pos hb]
  simp only [h]

private theorem exists_letter (e : Exponent) : ∃ b, (b = 0x65 ∨ b = 0x45) ∧
    spelled e.chars = b :: spelled (e.sign.toList.map Sign.char ++ e.digits.chars) := by
  obtain ⟨upper, sign, digits⟩ := e
  cases upper with
  | true => exact ⟨0x45, .inr rfl, rfl⟩
  | false => exact ⟨0x65, .inl rfl, rfl⟩

theorem exponentPart_chars (early : Fault) (exponent : Option Exponent) {rest : Octets}
    (h : ∀ b ∈ rest.head?, isDigit b = false ∧ b ≠ 0x65 ∧ b ≠ 0x45) :
    ∃ negative ds, exponentPart early (spelled (exponent.elim [] Exponent.chars) ++ rest) =
      .ok (negative, ds, rest) := by
  cases exponent with
  | none =>
    refine ⟨false, [], ?_⟩
    cases rest with
    | nil => rfl
    | cons b rest => exact if_neg (not_or.mpr (h b rfl).2)
  | some e =>
    obtain ⟨upper, sign, first, more⟩ := e
    have hread := someDigits_digitChars early first more fun b hb => (h b hb).1
    obtain ⟨b, hb, hspelled⟩ := exists_letter ⟨upper, sign, first, more⟩
    rw [Option.elim_some, hspelled, List.cons_append]
    refine ⟨_, first.val :: more.map Fin.val, exponentPart_cons hb ?_⟩
    cases sign with
    | none =>
      have hfirst : ∀ d : Fin 10, digitOctet d ≠ 0x2D ∧ digitOctet d ≠ 0x2B := by decide
      have hhead : ¬ ((spelled (digitChars (first :: more)) ++ rest).head? = some 0x2D ∨
          (spelled (digitChars (first :: more)) ++ rest).head? = some 0x2B) := by
        rw [spelled_digitChars]
        simp [hfirst first]
      rw [Option.toList_none, List.map_nil, List.nil_append, Digits.chars, if_neg hhead, hread]
    | some sign =>
      cases sign with
      | plus => exact hread
      | minus => exact hread

/-- What ends a value ends a number. -/
private theorem Ends.facts {bs : Octets} (h : Ends bs) :
    ∀ b ∈ bs.head?, isDigit b = false ∧ b ≠ 0x2E ∧ b ≠ 0x65 ∧ b ≠ 0x45 := by
  intro b hb
  have hblank : isBlank b = true → b = 0x20 ∨ b = 0x0A ∨ b = 0x0D ∨ b = 0x09 := by
    simp [isBlank, or_assoc]
  rcases h b hb with h | rfl | rfl | rfl
  · rcases hblank h with rfl | rfl | rfl | rfl <;> decide
  · decide
  · decide
  · decide

/-- A number is read up to its end. -/
theorem numeral_magnitude (early : Fault) (n : Number) {rest : Octets} (h : Ends rest) :
    ∃ m, numeral early (spelled n.magnitude ++ rest) = .ok (m, rest) := by
  have hexponent : ∀ b ∈ (spelled (n.exponent.elim [] Exponent.chars) ++ rest).head?,
      isDigit b = false ∧ b ≠ 0x2E := by
    cases n.exponent with
    | none => exact fun b hb => ⟨(h.facts b hb).1, (h.facts b hb).2.1⟩
    | some e =>
      obtain ⟨b, hb, hspelled⟩ := exists_letter e
      rw [Option.elim_some, hspelled]
      rintro c ⟨⟩
      rcases hb with rfl | rfl <;> decide
  have hfraction : ∀ b ∈ (spelled (n.fraction.elim [] fun ds => '.' :: ds.chars) ++
      (spelled (n.exponent.elim [] Exponent.chars) ++ rest)).head?, isDigit b = false := by
    cases n.fraction with
    | none => exact fun b hb => (hexponent b hb).1
    | some ds =>
      rintro b ⟨⟩
      decide
  obtain ⟨integer, hi⟩ := integerPart_chars early n.whole hfraction
  obtain ⟨fraction, hf⟩ := fractionPart_chars early n.fraction hexponent
  obtain ⟨negative, exponent, he⟩ := exponentPart_chars early n.exponent fun b hb =>
    ⟨(h.facts b hb).1, (h.facts b hb).2.2⟩
  refine ⟨{ integer, fraction, negativeExponent := negative, exponent }, ?_⟩
  rw [Number.magnitude, spelled_append, spelled_append, List.append_assoc, List.append_assoc,
    numeral]
  simp only [hi, hf, he]

/-! ## Strings -/

/-- The octet of a hexadecimal digit. -/
def HexDigit.octet (d : HexDigit) : UInt8 := d.char.toNat.toUInt8

theorem utf8EncodeChar_hexDigit (d : HexDigit) : String.utf8EncodeChar d.char = [d.octet] := by
  have hall : ∀ (value : Fin 16) (upper : Bool),
      String.utf8EncodeChar (HexDigit.char ⟨value, upper⟩) = [HexDigit.octet ⟨value, upper⟩] := by
    decide
  exact hall d.value d.upper

/-- The number of a unit is read off its digits. -/
theorem hexUnit?_octet (a b c d : HexDigit) :
    hexUnit? a.octet b.octet c.octet d.octet = some (unitValue a b c d) := by
  have hall : ∀ (value : Fin 16) (upper : Bool),
      Text.hexDigit? (Char.ofNat (HexDigit.octet ⟨value, upper⟩).toNat) = some value.val := by
    decide
  have hdigit : ∀ d : HexDigit, Text.hexDigit? (Char.ofNat d.octet.toNat) = some d.value.val :=
    fun d => hall d.value d.upper
  simp only [hexUnit?, hdigit]
  rfl

/-- The octets of a unit. -/
theorem spelled_unit (a b c d : HexDigit) :
    spelled (Glyph.unit a b c d).chars =
      [0x5C, 0x75, a.octet, b.octet, c.octet, d.octet] := by
  rw [Glyph.chars]
  simp only [spelled_cons, spelled_nil, utf8EncodeChar_hexDigit]
  rfl

/-- The octet of the letter of an escape. -/
def Escape.octet (e : Escape) : UInt8 := e.letter.toNat.toUInt8

theorem spelled_escape (e : Escape) : spelled (Glyph.escape e).chars = [0x5C, e.octet] := by
  cases e <;> rfl

/-- Letters of escapes are read as the characters that they stand for. -/
theorem shortEscape?_octet (e : Escape) : e.octet ≠ 0x75 ∧ ∃ octet,
    shortEscape? e.octet = some octet ∧ spelled [e.meaning] = [octet] := by
  cases e <;> exact ⟨by decide, _, rfl, rfl⟩

theorem spelled_quoted (glyphs : List Glyph) (rest : Octets) :
    spelled (quoted glyphs) ++ rest = 0x22 :: (spelled (glyphChars glyphs) ++ 0x22 :: rest) := by
  rw [quoted, spelled_cons, spelled_append, List.append_assoc, List.append_assoc]
  rfl

private theorem skipString_plain {b : UInt8} (h : b ≠ 0x22 ∧ b ≠ 0x5C ∧ ¬ b < 0x20)
    (rest : Octets) : skipString (b :: rest) = skipString rest := by
  rw [skipString.eq_def]
  simp only [h.1, h.2.1, h.2.2, if_false]

private theorem skipString_plains {bs : Octets}
    (h : ∀ b ∈ bs, b ≠ 0x22 ∧ b ≠ 0x5C ∧ ¬ b < 0x20) (rest : Octets) :
    skipString (bs ++ rest) = skipString rest := by
  induction bs with
  | nil => rfl
  | cons b bs ih =>
    rw [List.cons_append, skipString_plain (h b List.mem_cons_self),
      ih fun x hx => h x (List.mem_cons_of_mem _ hx)]

/-- A string is passed over, whatever it stands for. -/
theorem skipString_glyphChars (glyphs : List Glyph) (rest : Octets) :
    skipString (spelled (glyphChars glyphs) ++ 0x22 :: rest) = .ok rest := by
  induction glyphs with
  | nil =>
    rw [glyphChars, List.flatMap_nil, spelled_nil, List.nil_append, skipString.eq_def]
    rfl
  | cons glyph glyphs ih =>
    rw [glyphChars, List.flatMap_cons, spelled_append, List.append_assoc]
    cases glyph with
    | plain c notQuote notBackslash notControl =>
      rw [Glyph.chars, spelled_cons, spelled_nil, List.append_nil,
        skipString_plains (plain_of_mem_utf8EncodeChar notQuote notBackslash notControl)]
      exact ih
    | escape e =>
      obtain ⟨hne, octet, hoctet, -⟩ := shortEscape?_octet e
      rw [spelled_escape, List.cons_append, List.singleton_append, skipString.eq_def]
      simp only [hne, hoctet, Option.isSome_some, if_true, if_false,
        show ¬ (0x5C : UInt8) = 0x22 by decide]
      exact ih
    | unit a b c d =>
      rw [spelled_unit]
      simp only [List.cons_append, List.nil_append]
      rw [skipString.eq_def]
      simp only [hexUnit?_octet, Option.isSome_some, if_true, if_false,
        show ¬ (0x5C : UInt8) = 0x22 by decide]
      exact ih

/-! ## Steps of the reader -/

section

variable {brackets outer : List Bracket} {bracket : Bracket} {bs rest : Octets} {b : UInt8}

private theorem skipFrom_value (h : skipBlanks bs = b :: rest) :
    skipFrom .value brackets bs =
      if b = 0x5B then skipFrom .opened (.array :: brackets) rest
      else if b = 0x7B then skipFrom .opened (.object :: brackets) rest
      else (skipScalar b rest).bind (skipFrom .after brackets) := by
  rw [skipFrom]
  split
  · next hs => cases h.symm.trans hs
  · next hs =>
    cases h.symm.trans hs
    split
    · rfl
    split
    · rfl
    split
    · next hr => simp only [hr, Except.bind]
    · next hr => simp only [hr, Except.bind]

private theorem skipFrom_opened (h : skipBlanks bs = b :: rest) :
    skipFrom .opened (bracket :: outer) bs =
      if b = bracket.closing then skipFrom .after outer rest
      else (skipToValue bracket (b :: rest)).bind (skipFrom .value (bracket :: outer)) := by
  rw [skipFrom]
  split
  · next hs => cases h.symm.trans hs
  · next hs =>
    cases h.symm.trans hs
    split
    · rfl
    split
    · next hr => simp only [hr, Except.bind]
    · next hr => simp only [hr, Except.bind]

private theorem skipFrom_after (h : skipBlanks bs = b :: rest) :
    skipFrom .after (bracket :: outer) bs =
      if b = bracket.closing then skipFrom .after outer rest
      else if b = 0x2C then
        (skipToValue bracket rest).bind (skipFrom .value (bracket :: outer))
      else .error .malformed := by
  rw [skipFrom]
  split
  · next hs => cases h.symm.trans hs
  · next hs =>
    cases h.symm.trans hs
    split
    · rfl
    split
    · split
      · next hr => simp only [hr, Except.bind]
      · next hr => simp only [hr, Except.bind]
    · rfl

private theorem skipFrom_after_done (bs : Octets) : skipFrom .after [] bs = .ok bs := by
  rw [skipFrom]
  intro h
  cases h

end

/-! ## Values -/

/-- A number without its sign begins with a digit. -/
private theorem exists_digit (n : Number) : ∃ d t, spelled n.magnitude = digitOctet d :: t := by
  obtain ⟨negative, whole, fraction, exponent⟩ := n
  cases whole with
  | zero => exact ⟨0, _, rfl⟩
  | other first notZero more =>
    refine ⟨first, spelled (digitChars more) ++
      (spelled (fraction.elim [] fun ds => '.' :: ds.chars) ++
        spelled (exponent.elim [] Exponent.chars)), ?_⟩
    rw [Number.magnitude, Whole.chars, spelled_append, spelled_append, spelled_digitChars,
      spelled_digitChars, List.map_cons, List.append_assoc, List.cons_append]

/-- The octets of a number begin with a minus sign or a digit. -/
private theorem exists_front_number (n : Number) : ∃ b t, spelled n.chars = b :: t ∧
    (b = 0x2D ∨ ∃ d, b = digitOctet d) := by
  cases hn : n.negative with
  | true => exact ⟨0x2D, spelled n.magnitude, by rw [Number.chars, hn]; rfl, .inl rfl⟩
  | false =>
    obtain ⟨d, t, ht⟩ := exists_digit n
    exact ⟨digitOctet d, t, by rw [Number.chars, hn, ← ht]; rfl, .inr ⟨d, rfl⟩⟩

/-- The first octet of a value says as much of its kind as a reader asks for. -/
structure IsFront (v : Value) (b : UInt8) : Prop where
  visible : isBlank b = false
  notClosing : b ≠ 0x5D ∧ b ≠ 0x7D
  ofQuote : b = 0x22 → ∃ glyphs, v = .string glyphs
  ofN : b = 0x6E → v = .null
  ofBracket : b = 0x5B → ∃ inner items, v = .array inner items
  ofBrace : b = 0x7B → ∃ inner members, v = .object inner members

private theorem isFront_of_other {v : Value} {b : UInt8} (hvisible : isBlank b = false)
    (hb : b ∉ [0x5D, 0x7D, 0x22, 0x6E, 0x5B, 0x7B]) : IsFront v b := by
  simp only [List.mem_cons, List.not_mem_nil, or_false, not_or] at hb
  obtain ⟨h₁, h₂, h₃, h₄, h₅, h₆⟩ := hb
  exact ⟨hvisible, ⟨h₁, h₂⟩, fun h => absurd h h₃, fun h => absurd h h₄, fun h => absurd h h₅,
    fun h => absurd h h₆⟩

/-- Every value has a first octet. -/
theorem Value.exists_front (v : Value) : ∃ b t, spelled v.chars = b :: t ∧ IsFront v b := by
  cases v with
  | null =>
    exact ⟨0x6E, _, by rw [Value.chars]; rfl, by decide, by decide, by simp, fun _ => rfl, by simp,
      by simp⟩
  | boolean b =>
    cases b with
    | true => exact ⟨0x74, _, by rw [Value.chars]; rfl, isFront_of_other rfl (by decide)⟩
    | false => exact ⟨0x66, _, by rw [Value.chars]; rfl, isFront_of_other rfl (by decide)⟩
  | number n =>
    obtain ⟨b, t, hspelled, hb⟩ := exists_front_number n
    have hdigit : ∀ d : Fin 10, isBlank (digitOctet d) = false ∧
        digitOctet d ∉ [0x5D, 0x7D, 0x22, 0x6E, 0x5B, 0x7B] := by decide
    refine ⟨b, t, by rw [Value.chars, hspelled], ?_⟩
    rcases hb with rfl | ⟨d, rfl⟩
    · exact isFront_of_other rfl (by decide)
    · exact isFront_of_other (hdigit d).1 (hdigit d).2
  | string glyphs =>
    exact ⟨0x22, _, by rw [Value.chars, quoted]; rfl, by decide, by decide,
      fun _ => ⟨glyphs, rfl⟩, by simp, by simp, by simp⟩
  | array inner items =>
    exact ⟨0x5B, _, by rw [Value.chars]; rfl, by decide, by decide, by simp, by simp,
      fun _ => ⟨inner, items, rfl⟩, by simp⟩
  | object inner members =>
    exact ⟨0x7B, _, by rw [Value.chars]; rfl, by decide, by decide, by simp, by simp, by simp,
      fun _ => ⟨inner, members, rfl⟩⟩

/-- Whether a reader passes over a text from where a value may stand. -/
def Skips (cs : List Char) : Prop := ∀ (brackets : List Bracket) (bs rest : Octets), Ends rest →
  skipBlanks bs = spelled cs ++ rest → skipFrom .value brackets bs = skipFrom .after brackets rest

/-- A text that is passed over as a scalar is passed over. -/
private theorem skips_of_scalar {cs : List Char} {b : UInt8} {t : Octets}
    (hcs : spelled cs = b :: t) (harray : b ≠ 0x5B) (hobject : b ≠ 0x7B)
    (h : ∀ rest, Ends rest → skipScalar b (t ++ rest) = .ok rest) : Skips cs := by
  intro brackets bs rest hends hbs
  rw [hcs, List.cons_append] at hbs
  rw [skipFrom_value hbs, if_neg harray, if_neg hobject, h rest hends]
  rfl

private theorem skips_number (n : Number) : Skips n.chars := by
  have hskip : ∀ rest, Ends rest → skipNumeral (spelled n.magnitude ++ rest) = .ok rest := by
    intro rest hends
    obtain ⟨m, hm⟩ := numeral_magnitude .malformed n hends
    rw [skipNumeral, hm]
  cases hn : n.negative with
  | true =>
    have hchars : spelled n.chars = 0x2D :: spelled n.magnitude := by
      rw [Number.chars, hn]
      rfl
    exact skips_of_scalar hchars (by decide) (by decide) hskip
  | false =>
    obtain ⟨d, t, ht⟩ := exists_digit n
    have hchars : spelled n.chars = digitOctet d :: t := by
      rw [Number.chars, hn, ← ht]
      rfl
    have hdigit : ∀ d : Fin 10, digitOctet d ≠ 0x5B ∧ digitOctet d ≠ 0x7B ∧ digitOctet d ≠ 0x22 ∧
        digitOctet d ≠ 0x6E ∧ digitOctet d ≠ 0x74 ∧ digitOctet d ≠ 0x66 ∧
          digitOctet d ≠ 0x2D := by decide
    obtain ⟨h₁, h₂, h₃, h₄, h₅, h₆, h₇⟩ := hdigit d
    refine skips_of_scalar hchars h₁ h₂ fun rest hends => ?_
    rw [skipScalar, if_neg h₃, if_neg h₄, if_neg h₅, if_neg h₆, if_neg h₇,
      if_pos (isDigit_digitOctet d), ← List.cons_append, ← ht, hskip rest hends]

/-! ## Elements and members -/

/-- Whether a reader passes over a text from where an element or a member may stand. -/
structure Enters (bracket : Bracket) (entry : List Char) : Prop where
  front : ∀ rest, ∃ b t, skipBlanks (spelled entry ++ rest) = b :: t ∧ b ≠ bracket.closing
  passes : ∀ (outer : List Bracket) (bs : Octets) (b : UInt8) (rest : Octets),
    b = 0x2C ∨ b = bracket.closing → skipBlanks bs = skipBlanks (spelled entry ++ b :: rest) →
      (skipToValue bracket bs).bind (skipFrom .value (bracket :: outer)) =
        skipFrom .after (bracket :: outer) (b :: rest)

private theorem ends_of_next {bracket : Bracket} {b : UInt8} (h : b = 0x2C ∨ b = bracket.closing)
    (rest : Octets) : Ends (b :: rest) ∧ isBlank b = false := by
  cases bracket with
  | array =>
    rcases h with rfl | rfl
    · exact ⟨fun | _, rfl => by decide, rfl⟩
    · exact ⟨fun | _, rfl => by decide, rfl⟩
  | object =>
    rcases h with rfl | rfl
    · exact ⟨fun | _, rfl => by decide, rfl⟩
    · exact ⟨fun | _, rfl => by decide, rfl⟩

/-- Blanks behind a value do not count. -/
private theorem skipFrom_after_blankChars {bracket : Bracket} {b : UInt8}
    (h : b = 0x2C ∨ b = bracket.closing) (outer : List Bracket) (blanks : List Blank)
    (rest : Octets) :
    skipFrom .after (bracket :: outer) (spelled (blankChars blanks) ++ b :: rest) =
      skipFrom .after (bracket :: outer) (b :: rest) := by
  have hb := skipBlanks_cons (ends_of_next h rest).2 rest
  rw [skipFrom_after (by rw [skipBlanks_blankChars, hb]), skipFrom_after hb]

/-- The octets of an item. -/
theorem spelled_item (item : Item Value) (rest : Octets) :
    spelled item.chars ++ rest = spelled (blankChars item.before) ++
      (spelled item.value.chars ++ (spelled (blankChars item.after) ++ rest)) := by
  rw [Item.chars, padded, spelled_append, spelled_append, List.append_assoc, List.append_assoc]

/-- The octets of a label. -/
theorem spelled_labelChars (before : List Blank) (name : List Glyph) (gap : List Blank)
    (rest : Octets) :
    spelled (labelChars before name gap) ++ rest = spelled (blankChars before) ++ 0x22 ::
      (spelled (glyphChars name) ++ 0x22 :: (spelled (blankChars gap) ++ 0x3A :: rest)) := by
  rw [labelChars, spelled_append, spelled_append, spelled_append, List.append_assoc,
    List.append_assoc, List.append_assoc, spelled_quoted]
  rfl

/-- An item is passed over if its value is. -/
private theorem passes_item {bracket : Bracket} {item : Item Value} (h : Skips item.value.chars)
    (outer : List Bracket) (bs : Octets) {b : UInt8} (hb : b = 0x2C ∨ b = bracket.closing)
    (rest : Octets) (hbs : skipBlanks bs = skipBlanks (spelled item.chars ++ b :: rest)) :
    skipFrom .value (bracket :: outer) bs = skipFrom .after (bracket :: outer) (b :: rest) := by
  obtain ⟨hends, -⟩ := ends_of_next hb rest
  obtain ⟨front, t, hspelled, hfront⟩ := item.value.exists_front
  rw [spelled_item, skipBlanks_blankChars] at hbs
  have hstay : skipBlanks (spelled item.value.chars ++
      (spelled (blankChars item.after) ++ b :: rest)) =
        spelled item.value.chars ++ (spelled (blankChars item.after) ++ b :: rest) := by
    rw [hspelled]
    exact skipBlanks_cons hfront.visible _
  rw [h (bracket :: outer) bs _ (ends_blankChars hends item.after) (hbs.trans hstay),
    skipFrom_after_blankChars hb]

private theorem enters_item {item : Item Value} (h : Skips item.value.chars) :
    Enters .array item.chars where
  front := by
    intro rest
    obtain ⟨front, t, hspelled, hfront⟩ := item.value.exists_front
    rw [spelled_item, skipBlanks_blankChars, hspelled]
    exact ⟨front, _, skipBlanks_cons hfront.visible _, hfront.notClosing.1⟩
  passes := fun outer bs _ rest hb hbs => passes_item h outer bs hb rest hbs

/-- The name of a member is passed over. -/
theorem skipName_labelChars {bs rest : Octets} {before gap : List Blank} {name : List Glyph}
    (h : skipBlanks bs = skipBlanks (spelled (labelChars before name gap) ++ rest)) :
    skipName bs = .ok rest := by
  have hquote : skipBlanks bs = 0x22 :: (spelled (glyphChars name) ++
      0x22 :: (spelled (blankChars gap) ++ 0x3A :: rest)) := by
    rw [h, spelled_labelChars, skipBlanks_blankChars]
    exact skipBlanks_cons rfl _
  have hcolon : skipBlanks (spelled (blankChars gap) ++ 0x3A :: rest) = 0x3A :: rest := by
    rw [skipBlanks_blankChars]
    exact skipBlanks_cons rfl rest
  simp only [skipName, hquote, if_true, skipString_glyphChars, hcolon]

private theorem enters_member {member : Member Value} (h : Skips member.item.value.chars) :
    Enters .object member.chars where
  front := by
    intro rest
    rw [Member.chars, spelled_append, List.append_assoc, spelled_labelChars, skipBlanks_blankChars]
    exact ⟨0x22, _, skipBlanks_cons rfl _, by decide⟩
  passes := by
    intro outer bs b rest hb hbs
    rw [Member.chars, spelled_append, List.append_assoc] at hbs
    rw [skipToValue, skipName_labelChars hbs]
    exact passes_item h outer _ hb rest rfl

/-- One entry after another is passed over, up to the closing bracket. -/
private theorem passes_entries {bracket : Bracket} {entry : List Char}
    {entries : List (List Char)} (h : ∀ e ∈ entry :: entries, Enters bracket e)
    (outer : List Bracket) (bs rest : Octets)
    (hbs : skipBlanks bs = skipBlanks (spelled entry ++
      ((entries.flatMap fun entry => 0x2C :: spelled entry) ++ bracket.closing :: rest))) :
    (skipToValue bracket bs).bind (skipFrom .value (bracket :: outer)) =
      skipFrom .after outer rest := by
  have hentry := h entry List.mem_cons_self
  induction entries generalizing entry bs with
  | nil =>
    have hclosing : isBlank bracket.closing = false := (ends_of_next (.inr rfl) rest).2
    rw [List.flatMap_nil, List.nil_append] at hbs
    rw [hentry.passes outer bs _ rest (.inr rfl) hbs,
      skipFrom_after (skipBlanks_cons hclosing rest), if_pos rfl]
  | cons next entries ih =>
    have hcomma : ¬ (0x2C : UInt8) = bracket.closing := by cases bracket <;> decide
    have hnext : ∀ e ∈ next :: entries, Enters bracket e := fun e he =>
      h e (List.mem_cons_of_mem _ he)
    rw [List.flatMap_cons, List.cons_append, List.cons_append, List.append_assoc] at hbs
    rw [hentry.passes outer bs _ _ (.inl rfl) hbs, skipFrom_after (skipBlanks_cons rfl _),
      if_neg hcomma, if_pos rfl, ih hnext _ rfl (hnext next List.mem_cons_self)]

/-- The octets of an array. -/
theorem spelled_array (inner : List Blank) (items : List (Item Value)) (rest : Octets) :
    spelled (Value.array inner items).chars ++ rest = 0x5B :: (spelled (blankChars inner) ++
      (spelled (Text.joinWith [','] (items.map Item.chars)) ++ 0x5D :: rest)) := by
  rw [Value.chars, itemTexts_eq, spelled_cons, spelled_append, spelled_append, List.append_assoc,
    List.append_assoc, List.append_assoc]
  rfl

/-- The octets of an object. -/
theorem spelled_object (inner : List Blank) (members : List (Member Value)) (rest : Octets) :
    spelled (Value.object inner members).chars ++ rest = 0x7B :: (spelled (blankChars inner) ++
      (spelled (Text.joinWith [','] (members.map Member.chars)) ++ 0x7D :: rest)) := by
  rw [Value.chars, memberTexts_eq, spelled_cons, spelled_append, spelled_append, List.append_assoc,
    List.append_assoc, List.append_assoc]
  rfl

/-- What stands between brackets is passed over. -/
private theorem skips_brackets {bracket : Bracket} {entries : List (List Char)}
    (h : ∀ e ∈ entries, Enters bracket e) (inner : List Blank) (outer : List Bracket)
    (rest : Octets) :
    skipFrom .opened (bracket :: outer) (spelled (blankChars inner) ++
      (spelled (Text.joinWith [','] entries) ++ bracket.closing :: rest)) =
        skipFrom .after outer rest := by
  have hclosing : isBlank bracket.closing = false := (ends_of_next (.inr rfl) rest).2
  cases entries with
  | nil =>
    rw [skipFrom_opened (by rw [skipBlanks_blankChars]; exact skipBlanks_cons hclosing rest),
      if_pos rfl]
  | cons entry entries =>
    obtain ⟨b, t, hfront, hopen⟩ := (h entry List.mem_cons_self).front
      ((entries.flatMap fun entry => 0x2C :: spelled entry) ++ bracket.closing :: rest)
    have hblanks : skipBlanks (spelled (blankChars inner) ++
        (spelled (Text.joinWith [','] (entry :: entries)) ++ bracket.closing :: rest)) =
          b :: t := by
      rw [skipBlanks_blankChars, spelled_joinWith, List.append_assoc, hfront]
    have hagain : skipBlanks (b :: t) = skipBlanks (spelled entry ++
        ((entries.flatMap fun entry => 0x2C :: spelled entry) ++ bracket.closing :: rest)) := by
      rw [skipBlanks_cons (isBlank_of_skipBlanks hblanks), hfront]
    rw [skipFrom_opened hblanks, if_neg hopen, passes_entries h outer _ rest hagain]

/-! ## Whole values -/

private theorem skips_string (glyphs : List Glyph) : Skips (quoted glyphs) :=
  skips_of_scalar (b := 0x22) (t := spelled (glyphChars glyphs ++ ['"'])) rfl (by decide)
    (by decide) fun rest _ => by
      rw [spelled_append, List.append_assoc]
      exact skipString_glyphChars glyphs rest

mutual

/-- Every value is passed over. -/
private theorem skips : ∀ v : Value, Skips v.chars
  | .null => by
    rw [Value.chars]
    exact skips_of_scalar (b := 0x6E) rfl (by decide) (by decide) fun _ _ => rfl
  | .boolean true => by
    rw [Value.chars]
    exact skips_of_scalar (b := 0x74) rfl (by decide) (by decide) fun _ _ => rfl
  | .boolean false => by
    rw [Value.chars]
    exact skips_of_scalar (b := 0x66) rfl (by decide) (by decide) fun _ _ => rfl
  | .number n => by
    rw [Value.chars]
    exact skips_number n
  | .string glyphs => by
    rw [Value.chars]
    exact skips_string glyphs
  | .array inner items => by
    intro brackets bs rest _ hbs
    rw [spelled_array] at hbs
    rw [skipFrom_value hbs, if_pos rfl]
    have henters : ∀ e ∈ items.map _, Enters .array e :=
      List.forall_mem_map.mpr fun item hi => enters_item (skips_items items item hi)
    exact skips_brackets henters inner brackets rest
  | .object inner members => by
    intro brackets bs rest _ hbs
    rw [spelled_object] at hbs
    rw [skipFrom_value hbs, if_neg (by decide), if_pos rfl]
    have henters : ∀ e ∈ members.map _, Enters .object e :=
      List.forall_mem_map.mpr fun member hm => enters_member (skips_members members member hm)
    exact skips_brackets henters inner brackets rest

private theorem skips_items : ∀ items : List (Item Value), ∀ item ∈ items, Skips item.value.chars
  | ⟨_, value, _⟩ :: items, item, h => by
    rcases List.mem_cons.mp h with rfl | h
    · exact skips value
    · exact skips_items items item h

private theorem skips_members : ∀ members : List (Member Value), ∀ member ∈ members,
    Skips member.item.value.chars
  | ⟨_, _, _, ⟨_, value, _⟩⟩ :: members, member, h => by
    rcases List.mem_cons.mp h with rfl | h
    · exact skips value
    · exact skips_members members member h

end

/-- A reader passes over a value of any kind. -/
theorem skipValue_chars (v : Value) (before : List Blank) {rest : Octets} (h : Ends rest) :
    skipValue (spelled (blankChars before) ++ (spelled v.chars ++ rest)) = .ok rest := by
  obtain ⟨b, t, hspelled, hfront⟩ := v.exists_front
  have hstay : skipBlanks (spelled (blankChars before) ++ (spelled v.chars ++ rest)) =
      spelled v.chars ++ rest := by
    rw [skipBlanks_blankChars, hspelled]
    exact skipBlanks_cons hfront.visible _
  rw [skipValue, skips v [] _ rest h hstay, skipFrom_after_done]

end SignOn.Json
