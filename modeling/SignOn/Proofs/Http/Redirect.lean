import SignOn.Cookie.Response
import SignOn.Http.Message
import SignOn.Proofs.Http.FieldValue

/-!
# Redirects

A redirect target of any text can stand in a header field once it is encoded, so a redirect always
leads where it was told. `Response.RedirectsTo` says what a browser sees of a redirect.
-/

namespace SignOn.Http

/-- Encoded targets are visible ASCII. -/
theorem asciiFrom_encodeTarget (target : String) :
    Text.AsciiFrom 0x21 (encodeTarget target).toList := by
  rw [encodeTarget, String.toList_ofList]
  refine Text.asciiFrom_flatMap fun c _ => Text.asciiFrom_flatMap fun b _ => ?_
  exact Percent.asciiFrom_encodeOctet (Nat.le_refl _) Percent.isGraphic_iff.mp

/-- A target is encoded through its UTF-8 octets. -/
theorem encodeTarget_eq_encodeText (target : String) :
    encodeTarget target = Percent.encodeText Percent.isGraphic target := by
  rw [encodeTarget, Percent.encodeText, Percent.encode, Octets.ofText, List.flatMap_assoc]

/-- Targets are encoded piece by piece. -/
theorem encodeTarget_append (a b : String) :
    encodeTarget (a ++ b) = encodeTarget a ++ encodeTarget b := by
  rw [encodeTarget, encodeTarget, encodeTarget, String.toList_append, List.flatMap_append,
    String.ofList_append]

/-- Visible targets, and no others, stay as they are. -/
theorem encodeTarget_eq_self_iff {target : String} :
    encodeTarget target = target ↔ Text.AsciiFrom 0x21 target.toList := by
  constructor
  · intro h
    rw [← h]
    exact asciiFrom_encodeTarget target
  · intro h
    have hkept : ∀ c ∈ target.toList,
        c.toNat < 0x80 ∧ Percent.isGraphic c.toNat.toUInt8 = true := by
      intro c hc
      have hvisible := h c hc
      rw [Percent.isGraphic_iff, UInt8.toNat_ofNat_of_lt' (by change _ < 256; omega)]
      exact ⟨by omega, hvisible⟩
    have hsame := Percent.encodeText_of_keeps hkept
    rwa [String.ofList_toList, ← encodeTarget_eq_encodeText] at hsame

/-- Every target has a field value, and it is that of its encoded form. -/
theorem exists_locationValue (target : String) :
    ∃ v, locationValue target = some v ∧ v.octets = Octets.ofText (encodeTarget target) := by
  obtain ⟨v, hv, ho⟩ := FieldValue.exists_ofText? <| FieldValue.isFieldChar_of_asciiFrom <|
    (asciiFrom_encodeTarget target).mono (by decide : 0x20 ≤ 0x21)
  exact ⟨v, by rw [locationValue, hv, Option.some_or], ho⟩

/-- The octets of the values of a name, in order. -/
def Headers.octets (h : Headers) (name : String) : List Octets := (h.values name).map (·.octets)

/-- The texts of a name depend on the octets of its values. -/
theorem Headers.texts_eq (h : Headers) (name : String) :
    h.texts name = (h.octets name).filterMap shownText? := by
  rw [Headers.octets, List.filterMap_map]
  rfl

/-- Fields that were written as texts are read as these texts. -/
theorem Headers.texts_of_octets {h : Headers} {name : String} {texts : List String}
    (ho : h.octets name = texts.map Octets.ofText)
    (htext : ∀ s ∈ texts, ∀ c ∈ s.toList, IsTextChar c) : h.texts name = texts := by
  have hshown : ∀ s ∈ texts, shownText? (Octets.ofText s) = some s := fun s hs =>
    shownText?_ofText_eq_some_iff.mpr ⟨rfl, htext s hs⟩
  rw [Headers.texts_eq, ho, List.filterMap_map]
  exact (List.filterMap_congr hshown).trans List.filterMap_some

/-- What a browser sees of a redirect: where it leads, in encoded form, and the cookies it carries.
-/
structure Response.RedirectsTo (r : Response) (target : String) (cookies : List Octets) : Prop where
  status : r.status = 302
  location : r.headers.octets locationField = [Octets.ofText (encodeTarget target)]
  cookies : r.headers.octets Cookie.setCookieField = cookies

/-- Where a redirect leads can be read. -/
theorem Response.RedirectsTo.texts {r : Response} {target : String} {cookies : List Octets}
    (h : r.RedirectsTo target cookies) : r.headers.texts locationField = [encodeTarget target] := by
  refine Headers.texts_of_octets h.location ?_
  intro s hs c hc
  rw [List.mem_singleton.mp hs] at hc
  have := asciiFrom_encodeTarget target c hc
  exact .inl ⟨by omega, by omega⟩

/-- The values of a redirect's fields: the cookies it was given, and where it leads unless they say so
themselves. -/
theorem values_redirect (target : String) (cookies : Headers) (name : String) :
    (redirect target cookies).headers.values name =
      if cookies.values name = [] then
        if Text.lower locationField = Text.lower name then (locationValue target).toList else []
      else cookies.values name := by
  obtain ⟨v, hv, -⟩ := exists_locationValue target
  rw [redirect, Headers.values_extend, hv, Headers.single, Option.elim_some, Headers.values_append,
    Headers.values_empty, List.nil_append, Option.toList_some]

/-- A redirect leads to its target and carries the cookies that it was given. -/
theorem redirectsTo_redirect (target : String) {cookies : Headers}
    (h : cookies.octets locationField = []) :
    (redirect target cookies).RedirectsTo target (cookies.octets Cookie.setCookieField) := by
  obtain ⟨v, hv, ho⟩ := exists_locationValue target
  have hne : ¬ Text.lower locationField = Text.lower Cookie.setCookieField := by decide
  have hno : cookies.values locationField = [] := List.map_eq_nil_iff.mp h
  refine ⟨rfl, ?_, ?_⟩
  · rw [Headers.octets, values_redirect, if_pos hno, if_pos rfl, hv, Option.toList_some,
      List.map_singleton, ho]
  · rw [Headers.octets, Headers.octets, values_redirect, if_neg hne]
    split
    · next hnone => rw [hnone]
    · rfl

end SignOn.Http
