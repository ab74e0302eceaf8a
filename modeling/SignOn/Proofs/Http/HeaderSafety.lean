import SignOn.Proofs.Encoding.Form
import SignOn.Proofs.Http.Redirect

/-!
# Redirects that are safe in header fields

A redirect target may be any text, and part of it comes from the request. What is written to the
`Location` field is visible ASCII all the same and stands for the same octets, so nothing that a
target holds ends the field or begins another one. The cookies of the response are taken over as
they are (`redirects_safely`).
-/

namespace SignOn

namespace Percent

variable {keeps : UInt8 → Bool}

/-- Whether an octet is a hexadecimal digit. -/
def isHex (b : UInt8) : Bool := (hexOctet? b).isSome

/-- Whether octets complete an escape after a percent sign. -/
def completesEscape (bs : Octets) : Bool := bs.head?.any isHex && bs.tail.head?.any isHex

/-- The octets of the written form of octets. -/
def written (keeps : UInt8 → Bool) (bs : Octets) : Octets :=
  (encode keeps bs).map (·.toNat.toUInt8)

/-- The written form of a text, as octets. -/
theorem ofText_encodeText (s : String) (hlow : ∀ b, keeps b = true → b.toNat < 0x80) :
    Octets.ofText (encodeText keeps s) = written keeps (Octets.ofText s) := by
  have hascii : ∀ c ∈ (encodeText keeps s).toList, c.toNat < 0x80 := by
    refine forall_mem_encodeText (by decide) (by decide) fun b _ hb => ?_
    have := hlow b hb
    rwa [Octets.toNat_charOfNat (by omega)]
  rw [Octets.ofText_of_forall_lt hascii, encodeText, String.toList_ofList, written]

/-- Two octets complete an escape exactly when both are hexadecimal digits. -/
private theorem completesEscape_iff {a b : UInt8} {rest : Octets} :
    completesEscape (a :: b :: rest) = true ↔
      ∃ high low, hexOctet? a = some high ∧ hexOctet? b = some low := by
  simp [completesEscape, isHex, Option.isSome_iff_exists]

private theorem completesEscape_of_short {bs : Octets} (h : ∀ a b rest, bs ≠ a :: b :: rest) :
    completesEscape bs = false := by
  cases bs with
  | nil => rfl
  | cons a bs =>
    cases bs with
    | nil => simp [completesEscape]
    | cons b rest => exact absurd rfl (h a b rest)

/-- A percent sign that begins no escape is read as itself. -/
private theorem decode_mark {rest : Octets} (h : completesEscape rest = false) :
    decode (0x25 :: rest) = 0x25 :: decode rest := by
  match rest with
  | [] => rfl
  | [a] => rfl
  | a :: b :: rest =>
    rw [decode]
    split
    · next high low ha hb =>
      rw [completesEscape_iff.mpr ⟨high, low, ha, hb⟩] at h
      cases h
    · rfl

private theorem written_cons_of_keeps {b : UInt8} (h : keeps b = true) (bs : Octets) :
    written keeps (b :: bs) = b :: written keeps bs := by
  have hb := b.toNat_lt
  have hsame : (Char.ofNat b.toNat).toNat.toUInt8 = b := by
    rw [Octets.toNat_charOfNat (by omega), Nat.toUInt8_eq, UInt8.ofNat_toNat]
  rw [written, encode, List.flatMap_cons, encodeOctet, if_pos h, List.singleton_append,
    List.map_cons, hsame]
  rfl

private theorem written_cons_of_not_keeps {b : UInt8} (h : keeps b = false) (bs : Octets) :
    ∃ digits, written keeps (b :: bs) = 0x25 :: digits := by
  rw [written, encode, List.flatMap_cons, encodeOctet, if_neg (by simp [h])]
  exact ⟨_, rfl⟩

section KeepsEscapes

variable (hhex : ∀ b, isHex b = true → keeps b = true)
include hhex

private theorem any_isHex_head?_written (bs : Octets) :
    (written keeps bs).head?.any isHex = bs.head?.any isHex := by
  cases bs with
  | nil => rfl
  | cons b bs =>
    cases hb : keeps b with
    | true =>
      rw [written_cons_of_keeps hb]
      rfl
    | false =>
      have hno : isHex b = false := Bool.of_not_eq_true fun h => by simp [hhex b h] at hb
      obtain ⟨digits, hdigits⟩ := written_cons_of_not_keeps hb bs
      have hmark : isHex 0x25 = false := by decide
      rw [hdigits, List.head?_cons, List.head?_cons, Option.any_some, Option.any_some, hno, hmark]

/-- The written form completes an escape exactly when the octets do. -/
private theorem completesEscape_written (bs : Octets) :
    completesEscape (written keeps bs) = completesEscape bs := by
  rw [completesEscape, completesEscape, any_isHex_head?_written hhex]
  cases bs with
  | nil => rfl
  | cons b bs =>
    cases hb : isHex b with
    | false => simp [hb]
    | true => rw [written_cons_of_keeps (hhex b hb), List.tail_cons, List.tail_cons,
        any_isHex_head?_written hhex]

/-- Where escapes are kept, writing is not seen by reading. -/
theorem decode_written (hmark : keeps 0x25 = true) (bs : Octets) :
    decode (written keeps bs) = decode bs := by
  induction bs using decode.induct with
  | case1 => rfl
  | case2 a b rest high low hb ha ih =>
    rw [written_cons_of_keeps hmark, written_cons_of_keeps (hhex a (by simp [isHex, ha])),
      written_cons_of_keeps (hhex b (by simp [isHex, hb]))]
    simp only [decode, ha, hb, ih]
  | case3 a b rest hno ih =>
    have hopen : completesEscape (a :: b :: rest) = false := by
      rw [Bool.eq_false_iff, Ne, completesEscape_iff]
      rintro ⟨high, low, ha, hb⟩
      exact hno high low ha hb
    rw [written_cons_of_keeps hmark, decode_mark hopen,
      decode_mark ((completesEscape_written hhex _).trans hopen), ih]
  | case4 b rest hshort ih =>
    by_cases hb : b = 0x25
    · subst hb
      have hopen : completesEscape rest = false :=
        completesEscape_of_short fun a b tail => hshort a b tail rfl
      rw [written_cons_of_keeps hmark, decode_mark hopen,
        decode_mark ((completesEscape_written hhex _).trans hopen), ih]
    · have hwritten := decode_encodeOctet (fun _ : keeps b = true => hb) (written keeps rest)
      rw [written, encode, ← List.map_append, ← List.flatMap_cons] at hwritten
      rw [written, encode, hwritten, decode_cons_of_ne hb]
      exact congrArg _ ih

end KeepsEscapes

end Percent

namespace Http

/-- Hexadecimal digits are visible. -/
private theorem isGraphic_of_isHex {b : UInt8} (h : Percent.isHex b = true) :
    Percent.isGraphic b = true := by
  have hall : ∀ n < 256, Percent.isHex (UInt8.ofNat n) = true →
      Percent.isGraphic (UInt8.ofNat n) = true := by decide +kernel
  have hb := hall b.toNat b.toNat_lt
  rw [UInt8.ofNat_toNat] at hb
  exact hb h

/-- The octets of an encoded target are read as those of the target. -/
theorem decode_encodeTarget (target : String) :
    Percent.decode (Octets.ofText (encodeTarget target)) =
      Percent.decode (Octets.ofText target) := by
  have hlow : ∀ b, Percent.isGraphic b = true → b.toNat < 0x80 := by
    intro b hb
    have := Percent.isGraphic_iff.mp hb
    omega
  rw [encodeTarget_eq_encodeText, Percent.ofText_encodeText target hlow,
    Percent.decode_written (fun _ => isGraphic_of_isHex) (by decide)]

/-- An encoded target is not encoded again. -/
theorem encodeTarget_encodeTarget (target : String) :
    encodeTarget (encodeTarget target) = encodeTarget target :=
  encodeTarget_eq_self_iff.mpr (asciiFrom_encodeTarget target)

/-- A visible character stays as it is and any other one is written like a value inside a URL. -/
theorem encodeTarget_singleton (c : Char) :
    encodeTarget (String.singleton c) =
      if 0x21 ≤ c.toNat ∧ c.toNat ≤ 0x7E then String.singleton c
      else Percent.component (String.singleton c) := by
  split
  · next hvisible =>
    rw [encodeTarget_eq_self_iff, String.toList_singleton]
    exact Text.asciiFrom_cons.mpr ⟨hvisible, Text.asciiFrom_nil⟩
  · next hhidden =>
    have hsame : ∀ b ∈ String.utf8EncodeChar c,
        Percent.encodeOctet Percent.isGraphic b = Percent.encodeOctet Percent.isUnreserved b := by
      intro b hb
      have hgraphic : ¬ Percent.isGraphic b = true := by
        intro h
        have hrange := Percent.isGraphic_iff.mp h
        have hlow : b < 0x80 := UInt8.lt_iff_toNat_lt.mpr (by change b.toNat < 0x80; omega)
        exact hhidden (Octets.eq_of_mem_utf8EncodeChar hb hlow ▸ hrange)
      rw [Percent.encodeOctet, Percent.encodeOctet, if_neg hgraphic,
        if_neg fun h => hgraphic (Percent.isGraphic_of_isUnreserved h)]
    rw [encodeTarget_eq_encodeText, Percent.component, Percent.encodeText, Percent.encodeText,
      Percent.encode, Percent.encode, Octets.ofText, String.toList_singleton,
      List.flatMap_singleton, List.flatMap_congr hsame]

/-- How a target is written: in visible ASCII, changed only where it is not visible, and standing
for the same octets. -/
structure WritesSafely (target : String) : Prop where
  /-- No control, line break or blank is written. -/
  visible : Text.AsciiFrom 0x21 (encodeTarget target).toList
  /-- Visible targets, and no others, stay as they are. -/
  unchanged : encodeTarget target = target ↔ Text.AsciiFrom 0x21 target.toList
  /-- What was written is not written in another way. -/
  again : encodeTarget (encodeTarget target) = encodeTarget target
  /-- A target is written piece by piece. -/
  pieces : ∀ rest, encodeTarget (target ++ rest) = encodeTarget target ++ encodeTarget rest
  /-- The smallest pieces are the characters, each of which is kept or percent-encoded. -/
  characters : ∀ c, encodeTarget (String.singleton c) =
    if 0x21 ≤ c.toNat ∧ c.toNat ≤ 0x7E then String.singleton c
    else Percent.component (String.singleton c)
  /-- Reading the escapes gives the same octets as before. -/
  meaning : Percent.decode (Octets.ofText (encodeTarget target)) =
    Percent.decode (Octets.ofText target)

/-- A redirect to a target with cookies, field by field. -/
structure Response.LeadsTo (r : Response) (target : String) (cookies : List FieldValue) :
    Prop where
  status : r.status = 302
  body : r.body = ""
  /-- The encoded target can stand in a field, and it alone says where the redirect leads. -/
  location : ∃ v, FieldValue.ofText? (encodeTarget target) = some v ∧
    v.text? = some (encodeTarget target) ∧ r.headers.values locationField = [v]
  /-- All cookies are there, in their order. -/
  cookies : r.headers.values Cookie.setCookieField = cookies
  /-- There are no other fields. -/
  others : ∀ name, Text.lower name ≠ locationField → Text.lower name ≠ Cookie.setCookieField →
    r.headers.values name = []

/-- Visible ASCII can stand in a field, as the text that it is. -/
theorem exists_text?_of_asciiFrom {s : String} (h : Text.AsciiFrom 0x21 s.toList) :
    ∃ v, FieldValue.ofText? s = some v ∧ v.text? = some s := by
  obtain ⟨v, hv, ho⟩ := FieldValue.exists_ofText? (FieldValue.isFieldChar_of_asciiFrom
    (h.mono (by decide : 0x20 ≤ 0x21)))
  refine ⟨v, hv, ?_⟩
  change shownText? v.octets = some s
  rw [ho, shownText?_ofText_eq_some_iff]
  refine ⟨rfl, fun c hc => ?_⟩
  have := h c hc
  exact .inl ⟨by omega, by omega⟩

/-- The values of fields that all have one name. -/
theorem Headers.values_of_forall {h : Headers} {name : String}
    (hall : ∀ field ∈ h.fields, Text.lower field.1 = name) (other : String) :
    h.values other = if Text.lower other = name then h.fields.map Prod.snd else [] := by
  rw [Headers.values]
  split
  · next hother =>
    rw [List.filter_eq_self.mpr fun field hfield =>
      decide_eq_true ((hall field hfield).trans hother.symm)]
  · next hother =>
    have hnone : ∀ field ∈ h.fields, ¬ decide (Text.lower field.1 = Text.lower other) = true :=
      fun field hfield hsame =>
        hother ((of_decide_eq_true hsame).symm.trans (hall field hfield))
    rw [List.filter_eq_nil_iff.mpr hnone, List.map_nil]

/-- Whatever the target is, a redirect with cookies has one `Location`, the encoded target, and the
cookies; and the encoded target is safe in a field and stands for what the target does. -/
theorem redirects_safely (target : String) {cookies : Headers}
    (h : ∀ field ∈ cookies.fields, Text.lower field.1 = Cookie.setCookieField) :
    (redirect target cookies).LeadsTo target (cookies.fields.map Prod.snd) ∧
      WritesSafely target := by
  obtain ⟨v, hv, htext⟩ := exists_text?_of_asciiFrom (asciiFrom_encodeTarget target)
  have hlocation : locationValue target = some v := by rw [locationValue, hv, Option.some_or]
  have hvalues := Headers.values_of_forall h
  have hno : cookies.values locationField = [] := (hvalues _).trans (if_neg (by decide))
  have hall : cookies.values Cookie.setCookieField = cookies.fields.map Prod.snd :=
    (hvalues _).trans (if_pos (by decide))
  refine ⟨⟨rfl, rfl, ⟨v, hv, htext, ?_⟩, ?_, fun name hname hcookie => ?_⟩,
    ⟨asciiFrom_encodeTarget target, encodeTarget_eq_self_iff, encodeTarget_encodeTarget target,
      encodeTarget_append target, encodeTarget_singleton, decode_encodeTarget target⟩⟩
  · rw [values_redirect, if_pos hno, if_pos rfl, hlocation, Option.toList_some]
  · rw [values_redirect, hall]
    split
    · next hnone => rw [if_neg (by decide), hnone]
    · rfl
  · have hother : ¬ Text.lower locationField = Text.lower name := by
      rw [show Text.lower locationField = locationField by decide]
      exact Ne.symm hname
    rw [values_redirect, hvalues, if_neg hcookie, if_pos rfl, if_neg hother]

/-- Two cookies, one of which is not text. -/
def sampleCookies : Headers :=
  (Headers.empty.append "set-cookie" ⟨Octets.ofText "a=é", by decide⟩).append "Set-Cookie"
    ⟨Octets.ofText "b=; Max-Age=0", by decide⟩

/-- A target that tries to end its field and to begin another one. -/
theorem redirects_sampleCookies :
    (∀ field ∈ sampleCookies.fields, Text.lower field.1 = Cookie.setCookieField) ∧
      (redirect "/ä%2\r\nSet-Cookie: c=d" sampleCookies).headers.texts locationField =
        ["/%C3%A4%2%0D%0ASet-Cookie:%20c=d"] ∧
      (redirect "/ä%2\r\nSet-Cookie: c=d" sampleCookies).headers.octets Cookie.setCookieField =
        [Octets.ofText "a=é", Octets.ofText "b=; Max-Age=0"] := by
  have honly : ∀ field ∈ sampleCookies.fields, Text.lower field.1 = Cookie.setCookieField := by
    decide
  have hleads := (redirects_safely "/ä%2\r\nSet-Cookie: c=d" honly).1
  obtain ⟨v, -, htext, hlocation⟩ := hleads.location
  refine ⟨honly, ?_, ?_⟩
  · rw [Headers.texts, hlocation, List.filterMap_cons_some htext, List.filterMap_nil]
    decide
  · rw [Headers.octets, hleads.cookies]
    decide

end Http

end SignOn
