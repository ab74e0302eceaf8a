import SignOn.Http.FieldValue
import SignOn.Proofs.Text.Ascii

/-!
# Texts in field values

Which texts can stand in a header field, and which text a field value has, said of the characters of
the text: no control but the tab may occur, and a value that is text is ASCII.
-/

namespace SignOn.Http

/-- The octets of field values are the tab and what is neither a control nor the delete. -/
theorem isFieldOctet_iff {b : UInt8} :
    isFieldOctet b = true ↔ (0x20 ≤ b.toNat ∧ b.toNat ≠ 0x7F) ∨ b.toNat = 0x09 := by
  simp [isFieldOctet, UInt8.le_iff_toNat_le, ← UInt8.toNat_inj]

/-- The octets of text are the tab and printable ASCII. -/
theorem isTextOctet_iff {b : UInt8} :
    isTextOctet b = true ↔ (0x20 ≤ b.toNat ∧ b.toNat < 0x7F) ∨ b.toNat = 0x09 := by
  simp [isTextOctet, UInt8.le_iff_toNat_le, UInt8.lt_iff_toNat_lt, ← UInt8.toNat_inj]

/-- Whether a character may stand in a field value. -/
def IsFieldChar (c : Char) : Prop := (0x20 ≤ c.toNat ∧ c.toNat ≠ 0x7F) ∨ c.toNat = 0x09

/-- Whether a character may stand in a text value. -/
def IsTextChar (c : Char) : Prop := (0x20 ≤ c.toNat ∧ c.toNat < 0x7F) ∨ c.toNat = 0x09

instance (c : Char) : Decidable (IsFieldChar c) := inferInstanceAs (Decidable (_ ∨ _))

instance (c : Char) : Decidable (IsTextChar c) := inferInstanceAs (Decidable (_ ∨ _))

/-- A test of all characters at once. -/
theorem forall_isFieldChar {cs : List Char} (h : cs.all (IsFieldChar ·) = true) :
    ∀ c ∈ cs, IsFieldChar c :=
  fun c hc => of_decide_eq_true (List.all_eq_true.mp h c hc)

theorem forall_isTextChar {cs : List Char} (h : cs.all (IsTextChar ·) = true) :
    ∀ c ∈ cs, IsTextChar c :=
  fun c hc => of_decide_eq_true (List.all_eq_true.mp h c hc)

/-- A character may stand in a field value exactly when its octets may. -/
theorem isFieldChar_iff {c : Char} :
    IsFieldChar c ↔ ∀ b ∈ String.utf8EncodeChar c, isFieldOctet b = true := by
  by_cases hc : c.toNat < 0x80
  · have hn : c.toNat.toUInt8.toNat = c.toNat := UInt8.toNat_ofNat_of_lt' (by change _ < 256; omega)
    simp [Octets.utf8EncodeChar_of_lt hc, isFieldOctet_iff, hn, IsFieldChar]
  · constructor
    · intro _ b hb
      have hle := UInt8.le_iff_toNat_le.mp (Octets.le_of_mem_utf8EncodeChar (by omega) hb)
      rw [isFieldOctet_iff]
      simp only [UInt8.reduceToNat] at hle
      omega
    · intro _
      exact .inl ⟨by omega, by omega⟩

/-- The text that octets of a field show, if they are text. -/
def shownText? (octets : Octets) : Option String :=
  if octets.all isTextOctet then some (String.ofList (octets.map fun b => Char.ofNat b.toNat))
  else none

/-- Octets show a text that they are the written form of and that is text throughout. -/
theorem shownText?_eq_some_iff {octets : Octets} {s : String} :
    shownText? octets = some s ↔ octets = Octets.ofText s ∧ ∀ c ∈ s.toList, IsTextChar c := by
  have hlow : ∀ b, isTextOctet b = true → b < 0x80 := by
    intro b hb
    rw [isTextOctet_iff] at hb
    rw [UInt8.lt_iff_toNat_lt]
    simp only [UInt8.reduceToNat]
    omega
  rw [shownText?]
  constructor
  · intro h
    split at h
    · next ht =>
      rw [List.all_eq_true] at ht
      obtain rfl := Option.some.inj h
      refine ⟨(Octets.ofText_ofList_map fun b hb => hlow b (ht b hb)).symm, ?_⟩
      intro c hc
      rw [String.toList_ofList] at hc
      obtain ⟨b, hb, rfl⟩ := List.mem_map.mp hc
      have hb' := b.toNat_lt
      rw [IsTextChar, Octets.toNat_charOfNat (by omega)]
      exact isTextOctet_iff.mp (ht b hb)
    · cases h
  · rintro ⟨rfl, ht⟩
    have hascii : ∀ c ∈ s.toList, c.toNat < 0x80 := by
      intro c hc
      have := ht c hc
      rw [IsTextChar] at this
      omega
    have htext : (Octets.ofText s).all isTextOctet = true := by
      rw [List.all_eq_true, Octets.ofText_of_forall_lt hascii]
      intro b hb
      obtain ⟨c, hc, rfl⟩ := List.mem_map.mp hb
      have hn : c.toNat.toUInt8.toNat = c.toNat :=
        UInt8.toNat_ofNat_of_lt' (Nat.lt_trans (hascii c hc) (by decide))
      rw [isTextOctet_iff, hn]
      exact ht c hc
    rw [if_pos htext, Octets.ofList_map_ofText hascii]

/-- A text shows itself, and only if it is text throughout. -/
theorem shownText?_ofText_eq_some_iff {s t : String} :
    shownText? (Octets.ofText s) = some t ↔ s = t ∧ ∀ c ∈ s.toList, IsTextChar c := by
  rw [shownText?_eq_some_iff]
  constructor
  · rintro ⟨ho, ht⟩
    have hsame := congrArg Octets.text? ho
    rw [Octets.text?_ofText, Octets.text?_ofText] at hsame
    obtain rfl := Option.some.inj hsame
    exact ⟨rfl, ht⟩
  · rintro ⟨rfl, ht⟩
    exact ⟨rfl, ht⟩

namespace FieldValue

/-- The texts of field values are those without controls but the tab. -/
theorem isSome_ofText?_iff {s : String} :
    (ofText? s).isSome = true ↔ ∀ c ∈ s.toList, IsFieldChar c := by
  have hall : (Octets.ofText s).all isFieldOctet = true ↔ ∀ c ∈ s.toList, IsFieldChar c := by
    simp only [List.all_eq_true, Octets.ofText, List.mem_flatMap, isFieldChar_iff]
    constructor
    · intro h c hc b hb
      exact h b ⟨c, hc, hb⟩
    · rintro h b ⟨c, hc, hb⟩
      exact h c hc b hb
  rw [← hall, ofText?]
  split
  · next h => simp [h]
  · next h => simp [h]

/-- A text that may stand in a field has a field value, with the text's octets. -/
theorem exists_ofText? {s : String} (h : ∀ c ∈ s.toList, IsFieldChar c) :
    ∃ v, ofText? s = some v ∧ v.octets = Octets.ofText s := by
  obtain ⟨v, hv⟩ := Option.isSome_iff_exists.mp (isSome_ofText?_iff.mpr h)
  exact ⟨v, hv, ofText?_eq_some_iff.mp hv⟩

/-- Printable ASCII may stand in a field. -/
theorem isFieldChar_of_asciiFrom {s : String} (h : Text.AsciiFrom 0x20 s.toList) :
    ∀ c ∈ s.toList, IsFieldChar c := by
  intro c hc
  have := h c hc
  exact .inl ⟨this.1, by omega⟩

end FieldValue

end SignOn.Http
