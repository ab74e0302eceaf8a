import SignOn.Proofs.Storage.Jar
import SignOn.Proofs.Storage.Presence

/-!
# Cookies of other code

A browser sends the cookies of a host in one field, whoever has set them, with semicolons between
them. A further pair that is text leaves what is found under other names as it is. One that is not
text hides all pairs of its field, since fields that are not text are passed over as a whole
(`found_beside_foreign`): a context in the same field then counts as absent.
-/

namespace SignOn

namespace Http

namespace FieldValue

/-- Two values with a semicolon and a blank between them. -/
def beside (v w : FieldValue) : FieldValue where
  octets := v.octets ++ Octets.ofText "; " ++ w.octets
  legal := by
    rw [List.all_append, List.all_append, v.legal, w.legal]
    rfl

/-- Two values together are text when both are. -/
theorem isText_beside (v w : FieldValue) : (v.beside w).isText = (v.isText && w.isText) := by
  have hsep : (Octets.ofText "; ").all isTextOctet = true := by decide
  rw [isText, beside, List.all_append, List.all_append, hsep, Bool.and_true]
  rfl

/-- The text of two values together. -/
theorem text?_beside (v w : FieldValue) :
    (v.beside w).text? = v.text?.bind fun s => w.text?.map fun t => s ++ "; " ++ t := by
  have hsep : (Octets.ofText "; ").map (fun b => Char.ofNat b.toNat) = "; ".toList := by decide
  rw [text?, text?, text?, isText_beside]
  by_cases hv : v.isText = true
  · by_cases hw : w.isText = true
    · simp only [hv, hw, Bool.and_self, if_true, Option.bind_some, Option.map_some, beside,
        List.map_append, hsep, String.ofList_append, String.ofList_toList]
    · simp [hw]
  · simp [hv]

/-- A value with a text is text. -/
theorem isText_of_text? {v : FieldValue} {s : String} (h : v.text? = some s) : v.isText = true := by
  by_contra hno
  rw [text?_eq_none_iff.mpr (Bool.eq_false_of_not_eq_true hno)] at h
  cases h

end FieldValue

namespace Headers

/-- The texts of a name when one of its fields stands among others. -/
theorem texts_append_concat (before after : Headers) {label name : String}
    (h : Text.lower label = Text.lower name) (v : FieldValue) :
    ((before.append label v).concat after).texts name =
      before.texts name ++ v.text?.toList ++ after.texts name := by
  have hsingle : [v].filterMap FieldValue.text? = v.text?.toList := by
    cases hv : v.text? with
    | none => exact List.filterMap_cons_none hv
    | some s => exact List.filterMap_cons_some hv
  rw [texts, values_concat, values_append, if_pos h, List.filterMap_append, List.filterMap_append,
    hsingle, ← texts, ← texts]

end Headers

end Http

namespace Cookie

open Http (FieldValue Headers)

/-! ## Pairs of joined fields -/

private theorem filterMap_splitOn_cons (cs : List Char) :
    (Text.splitOn ';' (' ' :: cs)).filterMap pair? = (Text.splitOn ';' cs).filterMap pair? := by
  have hne : ¬ ' ' = ';' := by decide
  rw [Text.splitOn, if_neg hne]
  cases h : Text.splitOn ';' cs with
  | nil => exact absurd h (Text.splitOn_ne_nil ';' cs)
  | cons piece pieces =>
    simp only [List.filterMap_cons, pair?_cons]

/-- The pairs of two texts with a semicolon and a blank between them. -/
theorem pairs_beside (s t : String) : pairs (s ++ "; " ++ t) = pairs s ++ pairs t := by
  have hsplit : (s ++ "; " ++ t).toList = s.toList ++ ';' :: ' ' :: t.toList := by simp
  rw [pairs, hsplit, Text.splitOn_append, List.filterMap_append, filterMap_splitOn_cons, pairs,
    pairs]

/-- The pairs of a name in a field value. -/
def named (name : String) (v : FieldValue) : List (List Char × List Char) :=
  (v.text?.toList.flatMap pairs).filter (·.1 = name.toList)

/-- What is found in a request with a field among others. -/
theorem find?_append_concat (before after : Headers) {label : String}
    (h : Text.lower label = "cookie") (v : FieldValue) (name : String) :
    find? ((before.append label v).concat after) name =
      ((((requestPairs before).filter (·.1 = name.toList)) ++ named name v ++
        (requestPairs after).filter (·.1 = name.toList)).head?).map fun pair =>
          String.ofList pair.2 := by
  have hlabel : Text.lower label = Text.lower "cookie" := h.trans (by decide)
  rw [find?, ← List.head?_filter, requestPairs, Headers.texts_append_concat before after hlabel,
    List.flatMap_append, List.flatMap_append, List.filter_append, List.filter_append]
  rfl

/-- What is found in a request of several fields. -/
theorem find?_concat (before after : Headers) (name : String) :
    find? (before.concat after) name =
      ((((requestPairs before).filter (·.1 = name.toList)) ++
        (requestPairs after).filter (·.1 = name.toList)).head?).map fun pair =>
          String.ofList pair.2 := by
  rw [find?, ← List.head?_filter, requestPairs, Headers.texts, Headers.values_concat,
    List.filterMap_append, List.flatMap_append, List.filter_append]
  rfl

/-! ## Foreign pairs -/

/-- A cookie that other code has set: a name, which ends where the value begins and does not begin
with a blank, and any octets without semicolon as the value. -/
structure Foreign where
  name : Octets
  value : Octets
  legal : (name ++ 0x3D :: value).all Http.isFieldOctet = true
  ends : 0x3D ∉ name
  closed : 0x3B ∉ name ++ 0x3D :: value
  front : ∀ b ∈ name.head?, b ≠ 0x20 ∧ b ≠ 0x09

/-- The pair of a foreign cookie, as a field holds it. -/
def Foreign.field (c : Foreign) : FieldValue := ⟨c.name ++ 0x3D :: c.value, c.legal⟩

/-- The character of an octet of ASCII. -/
private theorem charOfNat_eq_iff (b : UInt8) {c : Char} (hc : c.toNat < 0x100) :
    Char.ofNat b.toNat = c ↔ b = c.toNat.toUInt8 := by
  have hb := b.toNat_lt
  have hchar : (Char.ofNat b.toNat).toNat = b.toNat := Octets.toNat_charOfNat (by omega)
  have hoctet : c.toNat.toUInt8.toNat = c.toNat := UInt8.toNat_ofNat_of_lt' hc
  rw [← Char.toNat_inj, hchar, ← UInt8.toNat_inj, hoctet]

/-- A foreign cookie that is text is read as one pair of its own name. -/
theorem Foreign.pairs_field (c : Foreign) {t : String} (h : c.field.text? = some t) :
    ∃ name value, pairs t = [(name, value)] ∧ Octets.ofText (String.ofList name) = c.name := by
  have htext := FieldValue.isText_of_text? h
  have hall : ∀ b ∈ c.name ++ 0x3D :: c.value, Http.isTextOctet b = true :=
    List.all_eq_true.mp htext
  rw [FieldValue.text?, if_pos htext] at h
  -- the characters of name and value
  generalize hname : c.name.map (fun b => Char.ofNat b.toNat) = name
  generalize hvalue : c.value.map (fun b => Char.ofNat b.toNat) = value
  have ht : t.toList = name ++ '=' :: value := by
    rw [← Option.some.inj h, String.toList_ofList, field, List.map_append, List.map_cons, hname,
      hvalue]
    rfl
  have hsemicolon : ';' ∉ name ++ '=' :: value := by
    rw [← ht, ← Option.some.inj h, String.toList_ofList]
    intro hm
    obtain ⟨b, hb, hc⟩ := List.mem_map.mp hm
    obtain rfl := (charOfNat_eq_iff b (by decide)).mp hc
    exact c.closed hb
  have hmark : '=' ∉ name := by
    rw [← hname]
    intro hm
    obtain ⟨b, hb, hc⟩ := List.mem_map.mp hm
    obtain rfl := (charOfNat_eq_iff b (by decide)).mp hc
    exact c.ends hb
  have hfront : ∀ d ∈ name.head?, Text.isBlank d = false := by
    rw [← hname, List.head?_map]
    intro d hd
    obtain ⟨b, hb, rfl⟩ := Option.map_eq_some_iff.mp hd
    obtain ⟨hspace, htab⟩ := c.front b hb
    have hrange := Http.isTextOctet_iff.mp
      (hall b (List.mem_append_left _ (List.mem_of_mem_head? hb)))
    rw [ne_eq, ← UInt8.toNat_inj] at hspace htab
    simp only [UInt8.reduceToNat] at hspace htab
    apply isBlank_of_visible
    rw [Octets.toNat_charOfNat (by omega)]
    omega
  refine ⟨name, Text.trimEndBy Text.isBlank value, ?_, ?_⟩
  · rw [pairs, ht, Text.splitOn_of_not_mem hsemicolon, List.filterMap_cons, pair?,
      Text.trimBy_append_cons hfront (by decide), Text.cutAt_append_cons hmark]
    rfl
  · rw [← hname]
    apply Octets.ofText_ofList_map
    intro b hb
    have hrange := Http.isTextOctet_iff.mp (hall b (List.mem_append_left _ hb))
    rw [UInt8.lt_iff_toNat_lt]
    simp only [UInt8.reduceToNat]
    omega

/-- A foreign cookie has no pair of another name. -/
theorem Foreign.named_field (c : Foreign) {name : String} (h : c.name ≠ Octets.ofText name) :
    named name c.field = [] := by
  rw [named, List.filter_eq_nil_iff]
  intro pair hp
  cases ht : c.field.text? with
  | none => simp [ht] at hp
  | some t =>
    obtain ⟨key, value, hpairs, hkey⟩ := c.pairs_field ht
    rw [ht, Option.toList_some, List.flatMap_singleton, hpairs, List.mem_singleton] at hp
    rw [hp, decide_eq_true_eq]
    rintro rfl
    rw [String.ofList_toList] at hkey
    exact h hkey.symm

/-- The pairs of two values together, if both are text. -/
theorem named_beside (name : String) (v w : FieldValue) :
    named name (v.beside w) = if v.isText && w.isText then named name v ++ named name w else [] := by
  rw [named, named, named, FieldValue.text?_beside]
  cases hv : v.text? with
  | none => simp [FieldValue.text?_eq_none_iff.mp hv]
  | some s =>
    cases hw : w.text? with
    | none => simp [FieldValue.text?_eq_none_iff.mp hw]
    | some t =>
      simp [FieldValue.isText_of_text? hv, FieldValue.isText_of_text? hw, pairs_beside]

/-- With a foreign cookie before or after it, a field shows the same under other names, or nothing if
the foreign cookie is not text. -/
theorem Foreign.named_beside (c : Foreign) {name : String} (h : c.name ≠ Octets.ofText name)
    {field v : FieldValue} (hv : v = c.field.beside field ∨ v = field.beside c.field) :
    named name v = if c.field.isText then named name field else [] := by
  have hjoined : named name v = if c.field.isText && field.isText then named name field else [] := by
    rcases hv with rfl | rfl
    · rw [Cookie.named_beside, c.named_field h, List.nil_append]
    · rw [Cookie.named_beside, c.named_field h, List.append_nil, Bool.and_comm]
  rw [hjoined]
  by_cases hfield : field.isText = true
  · rw [hfield, Bool.and_true]
  · have hnone : named name field = [] := by
      rw [named, FieldValue.text?_eq_none_iff.mpr (Bool.eq_false_of_not_eq_true hfield)]
      rfl
    rw [hnone, ite_self, ite_self]

/-- With a foreign cookie in one of the fields of a request, the same is found under other names, or
what the other fields show if the foreign cookie is not text. -/
theorem Foreign.find?_beside (c : Foreign) {name : String} (h : c.name ≠ Octets.ofText name)
    (before after : Headers) {label : String} (hlabel : Text.lower label = "cookie")
    {field v : FieldValue} (hv : v = c.field.beside field ∨ v = field.beside c.field) :
    find? ((before.append label v).concat after) name =
      if c.field.isText then find? ((before.append label field).concat after) name
      else find? (before.concat after) name := by
  rw [find?_append_concat before after hlabel, find?_append_concat before after hlabel,
    find?_concat, c.named_beside h hv]
  by_cases hc : c.field.isText = true
  · simp [hc]
  · simp [hc]

end Cookie

namespace Storage

open Cookie (Foreign)
open Http (FieldValue Headers)

/-- A foreign cookie before or after a `Cookie` field changes nothing if it is text: under every
other name the same is found, and a storage whose cookie has another name loads the same. If it is
not text, the field counts as absent. -/
theorem found_beside_foreign (c : Foreign) (before after : Headers) {label : String}
    (hlabel : Text.lower label = "cookie") {field v : FieldValue}
    (hv : v = c.field.beside field ∨ v = field.beside c.field) :
    (∀ name, c.name ≠ Octets.ofText name →
      Cookie.find? ((before.append label v).concat after) name =
        if c.field.isText then Cookie.find? ((before.append label field).concat after) name
        else Cookie.find? (before.concat after) name) ∧
    ∀ (s : Storage) (sessions : SessionStore) (now : Int), c.name ≠ Octets.ofText s.cookieName →
      s.load sessions now ((before.append label v).concat after) =
        if c.field.isText then s.load sessions now ((before.append label field).concat after)
        else s.load sessions now (before.concat after) := by
  have hfind := fun name (h : c.name ≠ Octets.ofText name) =>
    c.find?_beside h before after hlabel hv
  refine ⟨hfind, fun s sessions now h => ?_⟩
  have hcookie := hfind s.cookieName h
  by_cases hc : c.field.isText = true
  · rw [if_pos hc] at hcookie ⊢
    exact load_congr_find? hcookie sessions now
  · rw [if_neg hc] at hcookie ⊢
    exact load_congr_find? hcookie sessions now

/-- A cookie of another name, with a value that is text or not. -/
def sampleForeign (value : Octets) (legal : (Octets.ofText "lang" ++ 0x3D :: value).all
    Http.isFieldOctet = true) (closed : 0x3B ∉ Octets.ofText "lang" ++ 0x3D :: value) : Foreign where
  name := Octets.ofText "lang"
  value
  legal
  ends := by decide
  closed
  front := by decide +kernel

/-- The cookie `lang=fr`. -/
def samplePlain : Foreign := sampleForeign [0x66, 0x72] (by decide) (by decide)

/-- The cookie `lang=é`, in UTF-8. -/
def sampleAccented : Foreign := sampleForeign [0xC3, 0xA9] (by decide) (by decide)

/-- A field with the key of a session. -/
def sampleField : FieldValue := ⟨Octets.ofText "force_session=key", by decide⟩

/-- The key is found behind the cookie `lang=fr`. -/
theorem found_beside_samplePlain :
    Text.lower "Cookie" = "cookie" ∧
      samplePlain.name ≠ Octets.ofText "force_session" ∧
      Cookie.find? ((Headers.empty.append "Cookie" (samplePlain.field.beside sampleField)).concat
        .empty) "force_session" = some "key" := by
  have hlabel : Text.lower "Cookie" = "cookie" := by decide
  have hname : samplePlain.name ≠ Octets.ofText "force_session" := by decide
  have hfound := (found_beside_foreign samplePlain .empty .empty hlabel (.inl (Eq.refl
    (samplePlain.field.beside sampleField)))).1 "force_session" hname
  rw [if_pos (by decide)] at hfound
  exact ⟨hlabel, hname, hfound.trans (by decide)⟩

/-- A context that is kept in a cookie. -/
def sampleKept : SecurityContext where
  sessionId := "id"
  endpoint := { scheme := "https", authority := some { host := .domain "na1.example.com" }
                path := .rooted [""] }

/-- The cookie `lang=é` before them hides the cookies of a context, which is absent then. -/
theorem hidden_by_sampleAccented :
    ∃ field, Http.FieldValue.ofText? (Cookie.fieldText (sampleSealed.keptPairs
        ⟨.replicate 12 0, .replicate 16 0⟩ sampleKept)) = some field ∧
      sampleAccented.name ≠ Octets.ofText sampleSealed.cookieName ∧
      (sampleSealed.load (.create 10 0) 0 ((Headers.empty.append "cookie" field).concat
        .empty)).1 = .ok (some sampleKept) ∧
      (sampleSealed.load (.create 10 0) 0 ((Headers.empty.append "cookie"
        (sampleAccented.field.beside field)).concat .empty)).1 = .ok none := by
  have hsecret : Cipher.ofSecret "a secret of enough length" = .ok sampleSealed.cipher := rfl
  have hurl : Url.parse sampleKept.endpoint.text = .ok sampleKept.endpoint := by decide +kernel
  have hsid : Text.AsciiFrom 0x20 sampleKept.sessionId.toList := Text.asciiFrom_of_all (by decide)
  have hendpoint : Text.AsciiFrom 0x20 sampleKept.endpoint.text.toList :=
    Text.asciiFrom_of_all (by decide)
  have hkept : ∀ pair ∈ sampleSealed.keptPairs ⟨.replicate 12 0, .replicate 16 0⟩ sampleKept,
      Cookie.IsPair pair := isPair_keptPairs hsid hendpoint
  have hcarries := Cookie.carries_single hkept
  cases hfield : Http.FieldValue.ofText? (Cookie.fieldText (sampleSealed.keptPairs
      ⟨.replicate 12 0, .replicate 16 0⟩ sampleKept)) with
  | none =>
    have hsent := hcarries.sent
    rw [hfield] at hsent
    cases hsent
  | some field =>
  rw [hfield] at hcarries
  have hname : sampleAccented.name ≠ Octets.ofText sampleSealed.cookieName := by decide
  refine ⟨field, rfl, hname, ?_, ?_⟩
  · exact load_of_carries rfl (Cipher.isSchedule_of_ofSecret hsecret) hsid hendpoint hurl hcarries
      _ _
  · have hlabel : Text.lower "cookie" = "cookie" := by decide
    have hfind := sampleAccented.find?_beside hname .empty .empty hlabel
      (.inl (Eq.refl (sampleAccented.field.beside field)))
    rw [if_neg (by decide)] at hfind
    rw [load_congr_find? hfind]
    rfl

end Storage

end SignOn
