import Mathlib.Data.List.DropRight
import Mathlib.Data.Set.List
import SignOn.Proofs.Cookie.Carried

/-!
# The grammar of `Cookie` fields

A `Cookie` field is a list of parts with semicolons between them. A part is a pair or junk without
an equals sign, with spaces and tabs around it. Every request is written in this grammar, and what
is found under a name is the value of the first pair of exactly this name (`finds_first_pair`).
-/

namespace SignOn

namespace Text

/-- Blanks in front of a text do not count. -/
theorem trimBy_append {drops : Char → Bool} {a : List Char} (h : ∀ c ∈ a, drops c = true)
    (b : List Char) : trimBy drops (a ++ b) = trimBy drops b := by
  induction a with
  | nil => rfl
  | cons c a ih =>
    rw [List.cons_append, trimBy_cons (h c List.mem_cons_self),
      ih fun d hd => h d (List.mem_cons_of_mem _ hd)]

/-- A text that ends with no blank stays when the blanks behind it are dropped. -/
theorem trimEndBy_append {drops : Char → Bool} {a b : List Char}
    (ha : ∀ c ∈ a.getLast?, drops c = false) (hb : ∀ c ∈ b, drops c = true) :
    trimEndBy drops (a ++ b) = a := by
  have hlast : a.rdropWhile drops = a := by
    rw [List.rdropWhile_eq_self_iff]
    intro hne hdrop
    rw [ha _ (List.getLast?_eq_some_getLast hne)] at hdrop
    cases hdrop
  rw [trimEndBy, List.reverse_append,
    List.dropWhile_append_of_pos fun c hc => hb c (List.mem_reverse.mp hc)]
  exact hlast

/-- Joining undoes splitting. -/
theorem joinWith_splitOn (sep : Char) (cs : List Char) : joinWith [sep] (splitOn sep cs) = cs := by
  induction cs with
  | nil => rfl
  | cons c cs ih =>
    rw [splitOn]
    split
    · next hc =>
      cases hsplit : splitOn sep cs with
      | nil => exact absurd hsplit (splitOn_ne_nil sep cs)
      | cons piece pieces =>
        rw [hsplit] at ih
        rw [joinWith, ih, hc]
        rfl
    · cases hsplit : splitOn sep cs with
      | nil => exact absurd hsplit (splitOn_ne_nil sep cs)
      | cons piece pieces =>
        rw [hsplit] at ih
        cases pieces with
        | nil => exact congrArg _ ih
        | cons next pieces =>
          rw [← ih]
          rfl

/-- Joined texts come apart into the pieces of each. -/
theorem splitOn_joinWith_eq {sep : Char} {texts : List (List Char)} (hne : texts ≠ []) :
    splitOn sep (joinWith [sep] texts) = texts.flatMap (splitOn sep) := by
  induction texts with
  | nil => exact absurd rfl hne
  | cons text texts ih =>
    cases texts with
    | nil => exact (List.append_nil _).symm
    | cons next texts =>
      rw [joinWith, List.append_assoc, List.singleton_append, splitOn_append,
        ih (List.cons_ne_nil _ _)]
      rfl

end Text

namespace Cookie

open Http (FieldValue Headers IsTextChar)

/-! ## The grammar -/

/-- A blank of a header field. -/
inductive Blank where
  | space
  | tab

/-- The character of a blank. -/
def Blank.char : Blank → Char
  | space => ' '
  | tab => '\t'

/-- A pair: a name that ends where the value begins, and a value up to the end of the part. The
name does not begin with a blank and the value does not end with one. -/
structure Pair where
  name : List Char
  value : List Char
  ends : '=' ∉ name
  closed : ';' ∉ name ++ value
  front : ∀ c ∈ name.head?, ∀ blank : Blank, c ≠ blank.char
  back : ∀ c ∈ value.getLast?, ∀ blank : Blank, c ≠ blank.char
  text : ∀ c ∈ name ++ value, IsTextChar c

/-- What stands between two semicolons, but for the blanks around it. -/
inductive Segment where
  | pair (pair : Pair)
  | junk (chars : List Char) (noMark : '=' ∉ chars) (text : ∀ c ∈ chars, IsTextChar c)

/-- A segment with the blanks around it. -/
structure Part where
  before : List Blank := []
  segment : Segment
  after : List Blank := []

/-- A header field of a request. -/
inductive Field where
  /-- A `Cookie` field that is text. -/
  | line (label : String) (isCookie : Text.lower label = "cookie") (parts : List Part)
  /-- A `Cookie` field that is not text. -/
  | hidden (label : String) (isCookie : Text.lower label = "cookie") (value : FieldValue)
      (notText : value.isText = false)
  /-- A field of another name. -/
  | other (label : String) (notCookie : Text.lower label ≠ "cookie") (value : FieldValue)

/-- The characters of a segment. -/
def Segment.chars : Segment → List Char
  | pair p => p.name ++ '=' :: p.value
  | junk chars _ _ => chars

/-- The pair that a segment is. -/
def Segment.pair? : Segment → Option Pair
  | pair p => some p
  | junk _ _ _ => none

/-- The characters of a part. -/
def Part.chars (p : Part) : List Char :=
  p.before.map Blank.char ++ p.segment.chars ++ p.after.map Blank.char

/-- The characters of a field that is written as parts. -/
def lineChars (parts : List Part) : List Char := Text.joinWith [';'] (parts.map Part.chars)

/-- The pairs of a field. -/
def Field.pairs : Field → List Pair
  | line _ _ parts => parts.filterMap (·.segment.pair?)
  | hidden _ _ _ _ => []
  | other _ _ _ => []

private theorem Blank.isTextChar_char (blank : Blank) : IsTextChar blank.char := by
  cases blank with
  | space => decide
  | tab => decide

private theorem Part.isTextChar_chars (p : Part) : ∀ c ∈ p.chars, IsTextChar c := by
  have hblanks : ∀ blanks : List Blank, ∀ c ∈ blanks.map Blank.char, IsTextChar c := fun blanks =>
    List.forall_mem_map.mpr fun blank _ => blank.isTextChar_char
  have hsegment : ∀ c ∈ p.segment.chars, IsTextChar c := by
    cases p.segment with
    | pair q =>
      obtain ⟨hname, hvalue⟩ := List.forall_mem_append.mp q.text
      exact List.forall_mem_append.mpr ⟨hname, List.forall_mem_cons.mpr ⟨by decide, hvalue⟩⟩
    | junk chars _ text => exact text
  exact List.forall_mem_append.mpr
    ⟨List.forall_mem_append.mpr ⟨hblanks _, hsegment⟩, hblanks _⟩

/-- A field that is written as parts is text. -/
theorem isTextChar_lineChars (parts : List Part) : ∀ c ∈ lineChars parts, IsTextChar c := by
  have hsep : ∀ c ∈ [';'], IsTextChar c := List.forall_mem_singleton.mpr (by decide)
  rw [lineChars, Text.forall_mem_joinWith_iff hsep, List.forall_mem_map]
  exact fun p _ => p.isTextChar_chars

/-- Text may stand in a field. -/
private theorem all_isFieldOctet_of_text {cs : List Char} (h : ∀ c ∈ cs, IsTextChar c) :
    (Octets.ofText (String.ofList cs)).all Http.isFieldOctet = true := by
  rw [List.all_eq_true, Octets.ofText_ofList]
  intro b hb
  obtain ⟨c, hc, hb⟩ := List.mem_flatMap.mp hb
  exact Http.isFieldChar_iff.mp ((h c hc).imp (fun h => ⟨h.1, Nat.ne_of_lt h.2⟩) id) b hb

/-- The value of a field that is written as parts. -/
def lineValue (parts : List Part) : FieldValue where
  octets := Octets.ofText (String.ofList (lineChars parts))
  legal := all_isFieldOctet_of_text (isTextChar_lineChars parts)

/-- The field as a message holds it. -/
def Field.entry : Field → String × FieldValue
  | line label _ parts => (label, lineValue parts)
  | hidden label _ value _ => (label, value)
  | other label _ value => (label, value)

/-- The header fields that are written as fields of the grammar. -/
def headersOf (fields : List Field) : Headers := ⟨fields.map Field.entry⟩

/-! ## Reading what was written -/

private theorem isBlank_char (blank : Blank) : Text.isBlank blank.char = true := by
  cases blank with
  | space => decide
  | tab => decide

/-- The blanks of text are the space and the tab. -/
private theorem isBlank_of_text {c : Char} (htext : IsTextChar c)
    (h : ∀ blank : Blank, c ≠ blank.char) : Text.isBlank c = false := by
  have hspace : c.toNat ≠ 0x20 := fun heq => h .space (Char.toNat_inj.mp heq)
  have htab : c.toNat ≠ 0x09 := fun heq => h .tab (Char.toNat_inj.mp heq)
  rw [IsTextChar] at htext
  exact isBlank_of_visible (by omega)

/-- A pair with blanks around it is read as this pair. -/
private theorem pair?_of_pair {p : Part} {q : Pair} (h : p.segment = .pair q) :
    Cookie.pair? p.chars = some (q.name, q.value) := by
  have hblanks : ∀ blanks : List Blank, ∀ c ∈ blanks.map Blank.char, Text.isBlank c = true :=
    fun blanks => List.forall_mem_map.mpr fun blank _ => isBlank_char blank
  have hfront : ∀ c ∈ q.name.head?, Text.isBlank c = false := fun c hc =>
    isBlank_of_text (q.text c (List.mem_append_left _ (List.mem_of_mem_head? hc))) (q.front c hc)
  have hback : ∀ c ∈ q.value.getLast?, Text.isBlank c = false := fun c hc =>
    isBlank_of_text (q.text c (List.mem_append_right _ (List.mem_of_getLast? hc))) (q.back c hc)
  rw [Cookie.pair?, Part.chars, h, Segment.chars, List.append_assoc,
    Text.trimBy_append (hblanks p.before), List.append_assoc, List.cons_append,
    Text.trimBy_append_cons hfront (by decide), Text.trimEndBy_append hback (hblanks p.after),
    Text.cutAt_append_cons q.ends]

/-- A text without equals sign is no pair. -/
private theorem pair?_of_not_mem {cs : List Char} (h : '=' ∉ cs) : Cookie.pair? cs = none := by
  rw [Cookie.pair?, Text.cutAt_eq_none_iff]
  intro hmem
  refine h ?_
  have hinner := List.mem_reverse.mp hmem
  have hfront := List.mem_reverse.mp ((List.dropWhile_sublist _).subset hinner)
  exact (List.dropWhile_sublist _).subset hfront

/-- The pairs that a part is read as. -/
private theorem filterMap_pair?_part (p : Part) :
    (Text.splitOn ';' p.chars).filterMap Cookie.pair? =
      p.segment.pair?.toList.map fun q => (q.name, q.value) := by
  have hblanks : ∀ d : Char, (∀ blank : Blank, blank.char ≠ d) →
      ∀ blanks : List Blank, d ∉ blanks.map Blank.char := by
    rintro d hd blanks hmem
    obtain ⟨blank, -, hchar⟩ := List.mem_map.mp hmem
    exact hd blank hchar
  have hsemicolon := hblanks ';' fun blank => by cases blank <;> decide
  have hmark := hblanks '=' fun blank => by cases blank <;> decide
  cases hs : p.segment with
  | pair q =>
    have hwhole : ';' ∉ p.chars := by
      obtain ⟨hname, hvalue⟩ := not_or.mp (List.mem_append.not.mp q.closed)
      simp [Part.chars, hs, Segment.chars, hsemicolon, hname, hvalue]
    rw [Text.splitOn_of_not_mem hwhole, List.filterMap_cons, pair?_of_pair hs]
    rfl
  | junk chars noMark text =>
    have hwhole : '=' ∉ p.chars := by
      simp [Part.chars, hs, Segment.chars, hmark, noMark]
    rw [Segment.pair?, Option.toList_none, List.map_nil, List.filterMap_eq_nil_iff]
    intro piece hpiece
    exact pair?_of_not_mem fun hmem => hwhole (Text.of_mem_splitOn hpiece '=' hmem).2

/-- A field that is written as parts is read as the pairs among them, in order. -/
theorem pairs_lineChars (parts : List Part) :
    Cookie.pairs (String.ofList (lineChars parts)) =
      (parts.filterMap (·.segment.pair?)).map fun q => (q.name, q.value) := by
  rw [Cookie.pairs, String.toList_ofList, lineChars]
  cases parts with
  | nil => rfl
  | cons p parts =>
    have hne : (p :: parts).map Part.chars ≠ [] := List.cons_ne_nil _ _
    rw [Text.splitOn_joinWith_eq hne]
    generalize p :: parts = all
    induction all with
    | nil => rfl
    | cons p rest ih =>
      rw [List.map_cons, List.flatMap_cons, List.filterMap_append, filterMap_pair?_part, ih]
      cases hp : p.segment.pair? with
      | none => simp [hp]
      | some q => simp [hp]

private theorem text?_lineValue (parts : List Part) :
    (lineValue parts).text? = some (String.ofList (lineChars parts)) := by
  change Http.shownText? (Octets.ofText (String.ofList (lineChars parts))) = _
  rw [Http.shownText?_ofText_eq_some_iff, String.toList_ofList]
  exact ⟨rfl, isTextChar_lineChars parts⟩

/-- A field is read as its pairs. -/
private theorem requestPairs_entry (field : Field) :
    requestPairs ⟨[field.entry]⟩ = field.pairs.map fun q => (q.name, q.value) := by
  have hcookie : Text.lower "cookie" = "cookie" := by decide
  rw [requestPairs]
  cases field with
  | line label isCookie parts =>
    have htexts : Headers.texts ⟨[(label, lineValue parts)]⟩ "cookie" =
        [String.ofList (lineChars parts)] := by
      simp [Headers.texts, Headers.values, isCookie, hcookie, text?_lineValue]
    rw [Field.entry, htexts, List.flatMap_singleton, pairs_lineChars, Field.pairs]
  | hidden label isCookie value notText =>
    have htexts : Headers.texts ⟨[(label, value)]⟩ "cookie" = [] := by
      simp [Headers.texts, Headers.values, isCookie, hcookie,
        FieldValue.text?_eq_none_iff.mpr notText]
    rw [Field.entry, htexts]
    rfl
  | other label notCookie value =>
    have htexts : Headers.texts ⟨[(label, value)]⟩ "cookie" = [] := by
      simp [Headers.texts, Headers.values, notCookie, hcookie]
    rw [Field.entry, htexts]
    rfl

/-- A request is read as the pairs of its fields, in order. -/
theorem requestPairs_headersOf (fields : List Field) :
    requestPairs (headersOf fields) =
      (fields.flatMap Field.pairs).map fun q => (q.name, q.value) := by
  induction fields with
  | nil => rfl
  | cons field fields ih =>
    have hsplit : requestPairs (headersOf (field :: fields)) =
        requestPairs ⟨[field.entry]⟩ ++ requestPairs (headersOf fields) := by
      change ((Headers.concat ⟨[field.entry]⟩ (headersOf fields)).texts _).flatMap _ = _
      rw [Headers.texts, Headers.values_concat, List.filterMap_append, List.flatMap_append]
      rfl
    rw [hsplit, requestPairs_entry, ih, List.flatMap_cons, List.map_append]

/-! ## Writing what is read -/

/-- The blanks in front of a text come off. -/
private theorem exists_front (cs : List Char) : ∃ (blanks : List Blank) (inner : List Char),
    cs = blanks.map Blank.char ++ inner ∧ ∀ c ∈ inner.head?, ∀ blank : Blank, c ≠ blank.char := by
  induction cs with
  | nil => exact ⟨[], [], rfl, by simp⟩
  | cons c cs ih =>
    by_cases hblank : ∃ blank : Blank, c = blank.char
    · obtain ⟨blank, rfl⟩ := hblank
      obtain ⟨blanks, inner, rfl, hinner⟩ := ih
      exact ⟨blank :: blanks, inner, rfl, hinner⟩
    · exact ⟨[], c :: cs, rfl, by simpa using hblank⟩

/-- The blanks behind a text come off. -/
private theorem exists_back (cs : List Char) : ∃ (inner : List Char) (blanks : List Blank),
    cs = inner ++ blanks.map Blank.char ∧
      ∀ c ∈ inner.getLast?, ∀ blank : Blank, c ≠ blank.char := by
  obtain ⟨blanks, inner, hcs, hinner⟩ := exists_front cs.reverse
  refine ⟨inner.reverse, blanks.reverse, ?_, ?_⟩
  · rw [← List.reverse_reverse cs, hcs, List.reverse_append, List.map_reverse]
  · rwa [List.getLast?_reverse]

/-- Every text between two semicolons is a part. -/
private theorem exists_part {cs : List Char} (hclosed : ';' ∉ cs)
    (htext : ∀ c ∈ cs, IsTextChar c) : ∃ p : Part, p.chars = cs := by
  by_cases hmark : '=' ∈ cs
  · obtain ⟨left, right, rfl, hends⟩ := List.eq_append_cons_of_mem hmark
    obtain ⟨before, name, rfl, hfront⟩ := exists_front left
    obtain ⟨value, after, rfl, hback⟩ := exists_back right
    have hmem : ∀ c ∈ name ++ value,
        c ∈ before.map Blank.char ++ name ++ '=' :: (value ++ after.map Blank.char) := by
      intro c hc
      rcases List.mem_append.mp hc with hc | hc <;> simp [hc]
    let q : Pair :=
      { name, value
        ends := fun h => hends (List.mem_append_right _ h)
        closed := fun h => hclosed (hmem _ h)
        front := hfront
        back := hback
        text := fun c hc => htext c (hmem c hc) }
    exact ⟨⟨before, .pair q, after⟩, by simp [Part.chars, Segment.chars, q]⟩
  · exact ⟨{ segment := .junk cs hmark htext }, by simp [Part.chars, Segment.chars]⟩

/-- Every text is written as parts. -/
theorem exists_lineChars {cs : List Char} (htext : ∀ c ∈ cs, IsTextChar c) :
    ∃ parts, lineChars parts = cs := by
  have hpieces : ∀ piece ∈ Text.splitOn ';' cs, ∃ p : Part, p.chars = piece := fun piece hpiece =>
    have hchars := Text.of_mem_splitOn hpiece
    exists_part (fun h => (hchars _ h).1 rfl) fun c hc => htext c (hchars c hc).2
  obtain ⟨parts, hparts⟩ : Text.splitOn ';' cs ∈ Set.range (List.map Part.chars) := by
    rw [Set.range_list_map]
    exact hpieces
  exact ⟨parts, by rw [lineChars, hparts, Text.joinWith_splitOn]⟩

/-- Every header field of a message is a field of the grammar. -/
private theorem exists_entry (entry : String × FieldValue) :
    ∃ field : Field, field.entry = entry := by
  obtain ⟨label, value⟩ := entry
  by_cases hcookie : Text.lower label = "cookie"
  · cases htext : value.text? with
    | none => exact ⟨.hidden label hcookie value (FieldValue.text?_eq_none_iff.mp htext), rfl⟩
    | some s =>
      obtain ⟨hoctets, hchars⟩ := Http.shownText?_eq_some_iff.mp htext
      obtain ⟨parts, hparts⟩ := exists_lineChars hchars
      have hvalue : (lineValue parts).octets = value.octets := by
        rw [hoctets, ← String.ofList_toList (s := s), ← hparts]
        rfl
      exact ⟨.line label hcookie parts, congrArg (Prod.mk label) (FieldValue.ext hvalue)⟩
  · exact ⟨.other label hcookie value, rfl⟩

/-- The grammar leaves no request out. -/
theorem exists_headersOf (request : Headers) : ∃ fields, headersOf fields = request := by
  obtain ⟨fields, hfields⟩ : request.fields ∈ Set.range (List.map Field.entry) := by
    rw [Set.range_list_map]
    exact fun entry _ => exists_entry entry
  exact ⟨fields, congrArg Headers.mk hfields⟩

/-! ## The first pair of a name -/

/-- What is found under a name is the value of the first pair with exactly this name, whatever
fields and parts stand around it, and every request is written in the grammar. -/
theorem finds_first_pair :
    (∀ (fields : List Field) (name : String),
      find? (headersOf fields) name =
        ((fields.flatMap Field.pairs).find? (·.name = name.toList)).map
          fun q => String.ofList q.value) ∧
      ∀ request : Headers, ∃ fields, headersOf fields = request := by
  refine ⟨fun fields name => ?_, exists_headersOf⟩
  rw [find?, requestPairs_headersOf, List.find?_map, Option.map_map]
  rfl

/-- A longer name, a part without equals sign and a second pair of the name stand around the pair
that is found. -/
example : find? ⟨[("Cookie", ⟨Octets.ofText "xa=1; a; a=b=c ;\ta=2", by decide⟩)]⟩ "a" =
    some "b=c" := by
  decide

end Cookie

end SignOn
