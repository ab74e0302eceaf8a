import Mathlib.Data.List.Basic
import SignOn.Octets

/-!
# Texts as UTF-8

`Octets.ofText` writes a text character by character. Characters of ASCII are single octets, all
other characters consist of octets from 0x80 on. Reading what was written gives the text back
(`text?_ofText`), and between texts of ASCII and their octets nothing changes but the type.
-/

namespace SignOn.Octets

private theorem toNat_ofNat {n : Nat} (h : n < 0x100) : (UInt8.ofNat n).toNat = n := by
  rw [UInt8.toNat_ofNat', Nat.mod_eq_of_lt h]

/-- The number of a character below the surrogates. -/
theorem toNat_charOfNat {n : Nat} (h : n < 0xD800) : (Char.ofNat n).toNat = n := by
  rw [Char.ofNat, dif_pos (Or.inl h)]
  rfl

/-- A character of ASCII is written as one octet. -/
theorem utf8EncodeChar_of_lt {c : Char} (h : c.toNat < 0x80) :
    String.utf8EncodeChar c = [c.toNat.toUInt8] := by
  have hv : c.val.toNat ≤ 0x7f := by
    change c.toNat ≤ 0x7f
    omega
  rw [String.utf8EncodeChar]
  exact if_pos hv

/-- The octets of any other character lie beyond ASCII. -/
theorem le_of_mem_utf8EncodeChar {c : Char} (h : 0x80 ≤ c.toNat) {b : UInt8}
    (hb : b ∈ String.utf8EncodeChar c) : 0x80 ≤ b := by
  have hv : ¬ c.val.toNat ≤ 0x7f := by
    change ¬ c.toNat ≤ 0x7f
    omega
  rw [UInt8.le_iff_toNat_le]
  simp only [String.utf8EncodeChar, if_neg hv] at hb
  split at hb
  · simp only [List.mem_cons, List.not_mem_nil, or_false] at hb
    rcases hb with rfl | rfl <;> simp only [UInt8.toNat_ofNat', UInt8.reduceToNat] <;> omega
  split at hb
  · simp only [List.mem_cons, List.not_mem_nil, or_false] at hb
    rcases hb with rfl | rfl | rfl <;> simp only [UInt8.toNat_ofNat', UInt8.reduceToNat] <;> omega
  · simp only [List.mem_cons, List.not_mem_nil, or_false] at hb
    rcases hb with rfl | rfl | rfl | rfl <;>
      simp only [UInt8.toNat_ofNat', UInt8.reduceToNat] <;> omega

/-- An octet of ASCII in the written form of a character is that character. -/
theorem eq_of_mem_utf8EncodeChar {c : Char} {b : UInt8} (hb : b ∈ String.utf8EncodeChar c)
    (h : b < 0x80) : c.toNat = b.toNat := by
  by_cases hc : c.toNat < 0x80
  · rw [utf8EncodeChar_of_lt hc, List.mem_singleton] at hb
    rw [hb, Nat.toUInt8_eq, toNat_ofNat (by omega)]
  · have := le_of_mem_utf8EncodeChar (by omega) hb
    rw [UInt8.le_iff_toNat_le] at this
    rw [UInt8.lt_iff_toNat_lt] at h
    omega

/-! ## Writing -/

/-- The octets of a list of characters. -/
theorem ofText_ofList (cs : List Char) :
    ofText (String.ofList cs) = cs.flatMap String.utf8EncodeChar := by
  rw [ofText, String.toList_ofList]

/-- A text takes as many octets as its UTF-8 form. -/
theorem length_ofText (s : String) : (ofText s).length = s.utf8ByteSize := by
  rw [String.utf8ByteSize, ← String.utf8Encode_toList, List.utf8Encode, List.size_toByteArray]
  rfl

/-- A text of ASCII is written character by octet. -/
theorem ofText_of_forall_lt {s : String} (h : ∀ c ∈ s.toList, c.toNat < 0x80) :
    ofText s = s.toList.map fun c => c.toNat.toUInt8 := by
  rw [ofText, List.map_eq_flatMap]
  apply List.flatMap_congr
  intro c hc
  exact utf8EncodeChar_of_lt (h c hc)

/-- The characters of octets of ASCII are written as these octets. -/
theorem ofText_ofList_map {bs : Octets} (h : ∀ b ∈ bs, b < 0x80) :
    ofText (String.ofList (bs.map fun b => Char.ofNat b.toNat)) = bs := by
  induction bs with
  | nil => rfl
  | cons b bs ih =>
    have hb : b.toNat < 0x80 := UInt8.lt_iff_toNat_lt.mp (h b List.mem_cons_self)
    have hc : (Char.ofNat b.toNat).toNat = b.toNat := toNat_charOfNat (by omega)
    have ht := ih fun x hx => h x (List.mem_cons_of_mem _ hx)
    rw [ofText_ofList] at ht ⊢
    rw [List.map_cons, List.flatMap_cons, utf8EncodeChar_of_lt (by rw [hc]; exact hb), ht, hc,
      Nat.toUInt8_eq, UInt8.ofNat_toNat]
    rfl

/-- The octets of a text of ASCII read as characters give the text. -/
theorem ofList_map_ofText {s : String} (h : ∀ c ∈ s.toList, c.toNat < 0x80) :
    String.ofList ((ofText s).map fun b => Char.ofNat b.toNat) = s := by
  rw [ofText_of_forall_lt h, List.map_map]
  have hid : s.toList.map ((fun b : UInt8 => Char.ofNat b.toNat) ∘ fun c => c.toNat.toUInt8) =
      s.toList.map id := by
    apply List.map_congr_left
    intro c hc
    have := h c hc
    simp only [Function.comp_apply, id_eq, Nat.toUInt8_eq]
    rw [toNat_ofNat (by omega), Char.ofNat_toNat]
  rw [hid, List.map_id, String.ofList_toList]

/-! ## Reading -/

private theorem not_surrogate (c : Char) : c.val.toNat < 0xD800 ∨
    (0xDFFF < c.val.toNat ∧ c.val.toNat < 0x110000) := c.valid

private theorem isTail_iff {b : UInt8} : isTail b = true ↔ 0x80 ≤ b.toNat ∧ b.toNat ≤ 0xBF := by
  simp [isTail, UInt8.le_iff_toNat_le]

/-- The second octet is bound by the first where a character could have two spellings or lie outside
Unicode. -/
private theorem isSecond_of {a b : UInt8} (hb : isTail b = true)
    (he0 : a.toNat = 0xE0 → 0xA0 ≤ b.toNat) (hed : a.toNat = 0xED → b.toNat ≤ 0x9F)
    (hf0 : a.toNat = 0xF0 → 0x90 ≤ b.toNat) (hf4 : a.toNat = 0xF4 → b.toNat ≤ 0x8F) :
    isSecond a b = true := by
  rw [isTail_iff] at hb
  simp only [isSecond, isTail, ← UInt8.toNat_inj, UInt8.le_iff_toNat_le, UInt8.reduceToNat]
  grind

/-- A character of two octets at the front. -/
private theorem front_two {a b : UInt8} (h₁ : 0xC2 ≤ a.toNat) (h₂ : a.toNat < 0xE0)
    (hb : isTail b = true) (rest : Octets) :
    front a (b :: rest) = (some (Char.ofNat ((a.toNat - 0xC0) * 0x40 + tailBits b)), rest) := by
  unfold front
  rw [if_neg (by omega), if_neg (by omega), if_pos h₂]
  simp [hb]

/-- A character of three octets at the front. -/
private theorem front_three {a b c : UInt8} (h₁ : 0xE0 ≤ a.toNat) (h₂ : a.toNat < 0xF0)
    (hb : isSecond a b = true) (hc : isTail c = true) (rest : Octets) :
    front a (b :: c :: rest) = (some (Char.ofNat
      ((a.toNat - 0xE0) * 0x1000 + tailBits b * 0x40 + tailBits c)), rest) := by
  unfold front
  rw [if_neg (by omega), if_neg (by omega), if_neg (by omega), if_pos h₂]
  simp [hb, hc]

/-- A character of four octets at the front. -/
private theorem front_four {a b c d : UInt8} (h₁ : 0xF0 ≤ a.toNat) (h₂ : a.toNat < 0xF5)
    (hb : isSecond a b = true) (hc : isTail c = true) (hd : isTail d = true) (rest : Octets) :
    front a (b :: c :: d :: rest) = (some (Char.ofNat
      ((a.toNat - 0xF0) * 0x40000 + tailBits b * 0x1000 + tailBits c * 0x40 + tailBits d)),
      rest) := by
  unfold front
  rw [if_neg (by omega), if_neg (by omega), if_neg (by omega), if_neg (by omega), if_pos h₂]
  simp [hb, hc, hd]

/-- The first step of reading takes a written character off the front. -/
theorem front_utf8EncodeChar {c : Char} {a : UInt8} {bs : Octets}
    (h : String.utf8EncodeChar c = a :: bs) (rest : Octets) :
    front a (bs ++ rest) = (some c, rest) := by
  have hs := not_surrogate c
  have hv : Char.ofNat c.val.toNat = c := Char.ofNat_toNat c
  rw [String.utf8EncodeChar] at h
  -- the cases are the lengths of the written form
  by_cases h₁ : c.val.toNat ≤ 0x7f
  · rw [if_pos h₁] at h
    obtain ⟨rfl, rfl⟩ := List.cons.inj h
    unfold front
    simp only [toNat_ofNat (show c.val.toNat < 0x100 by omega), List.nil_append]
    rw [if_pos (by omega), hv]
  by_cases h₂ : c.val.toNat ≤ 0x7ff
  · rw [if_neg h₁, if_pos h₂] at h
    obtain ⟨rfl, rfl⟩ := List.cons.inj h
    have ha := toNat_ofNat (show c.val.toNat / 64 % 0x20 + 0xc0 < 0x100 by omega)
    have hb := toNat_ofNat (show c.val.toNat % 0x40 + 0x80 < 0x100 by omega)
    generalize UInt8.ofNat (c.val.toNat / 64 % 0x20 + 0xc0) = a at ha ⊢
    generalize UInt8.ofNat (c.val.toNat % 0x40 + 0x80) = b at hb ⊢
    have hn : (a.toNat - 0xC0) * 0x40 + tailBits b = c.val.toNat := by
      unfold tailBits
      omega
    rw [List.singleton_append, front_two (by omega) (by omega) (isTail_iff.mpr (by omega)), hn, hv]
  by_cases h₃ : c.val.toNat ≤ 0xffff
  · rw [if_neg h₁, if_neg h₂, if_pos h₃] at h
    obtain ⟨rfl, rfl⟩ := List.cons.inj h
    have ha := toNat_ofNat (show c.val.toNat / 4096 % 0x10 + 0xe0 < 0x100 by omega)
    have hb := toNat_ofNat (show c.val.toNat / 64 % 0x40 + 0x80 < 0x100 by omega)
    have hc := toNat_ofNat (show c.val.toNat % 0x40 + 0x80 < 0x100 by omega)
    generalize UInt8.ofNat (c.val.toNat / 4096 % 0x10 + 0xe0) = a at ha ⊢
    generalize UInt8.ofNat (c.val.toNat / 64 % 0x40 + 0x80) = b at hb ⊢
    generalize UInt8.ofNat (c.val.toNat % 0x40 + 0x80) = d at hc ⊢
    have hsecond : isSecond a b = true :=
      isSecond_of (isTail_iff.mpr (by omega)) (by omega) (by omega) (by omega) (by omega)
    have hn : (a.toNat - 0xE0) * 0x1000 + tailBits b * 0x40 + tailBits d = c.val.toNat := by
      unfold tailBits
      omega
    rw [List.cons_append, List.singleton_append,
      front_three (by omega) (by omega) hsecond (isTail_iff.mpr (by omega)), hn, hv]
  · rw [if_neg h₁, if_neg h₂, if_neg h₃] at h
    obtain ⟨rfl, rfl⟩ := List.cons.inj h
    have ha := toNat_ofNat (show c.val.toNat / 262144 % 0x08 + 0xf0 < 0x100 by omega)
    have hb := toNat_ofNat (show c.val.toNat / 4096 % 0x40 + 0x80 < 0x100 by omega)
    have hc := toNat_ofNat (show c.val.toNat / 64 % 0x40 + 0x80 < 0x100 by omega)
    have hd := toNat_ofNat (show c.val.toNat % 0x40 + 0x80 < 0x100 by omega)
    generalize UInt8.ofNat (c.val.toNat / 262144 % 0x08 + 0xf0) = a at ha ⊢
    generalize UInt8.ofNat (c.val.toNat / 4096 % 0x40 + 0x80) = b at hb ⊢
    generalize UInt8.ofNat (c.val.toNat / 64 % 0x40 + 0x80) = d at hc ⊢
    generalize UInt8.ofNat (c.val.toNat % 0x40 + 0x80) = e at hd ⊢
    have hsecond : isSecond a b = true :=
      isSecond_of (isTail_iff.mpr (by omega)) (by omega) (by omega) (by omega) (by omega)
    have hn : (a.toNat - 0xF0) * 0x40000 + tailBits b * 0x1000 + tailBits d * 0x40 + tailBits e =
        c.val.toNat := by
      unfold tailBits
      omega
    rw [List.cons_append, List.cons_append, List.singleton_append, front_four (by omega)
      (by omega) hsecond (isTail_iff.mpr (by omega)) (isTail_iff.mpr (by omega)), hn, hv]

/-- A written character at the front is read as this character. -/
theorem parts_utf8EncodeChar (c : Char) (rest : Octets) :
    parts (String.utf8EncodeChar c ++ rest) = some c :: parts rest := by
  cases h : String.utf8EncodeChar c with
  | nil => exact absurd h String.utf8EncodeChar_ne_nil
  | cons a bs => rw [List.cons_append, parts, front_utf8EncodeChar h]

/-- Every part of what was written is a character. -/
theorem parts_ofText (s : String) : parts (ofText s) = s.toList.map some := by
  rw [ofText]
  induction s.toList with
  | nil => simp [parts]
  | cons c cs ih => rw [List.flatMap_cons, parts_utf8EncodeChar, ih, List.map_cons]

/-- Reading what was written gives the text back. -/
theorem text?_ofText (s : String) : text? (ofText s) = some s := by
  have hmap : ∀ cs : List Char, (cs.map some).mapM id = some cs := by
    intro cs
    induction cs with
    | nil => rfl
    | cons c cs ih => simp [ih]
  rw [text?, parts_ofText, hmap, Option.map_some, String.ofList_toList]

/-- Nothing that was written needs a replacement. -/
theorem lossyText_ofText (s : String) : lossyText (ofText s) = s := by
  have hid : (fun part : Option Char => part.getD '\ufffd') ∘ some = id := rfl
  rw [lossyText, parts_ofText, List.map_map, hid, List.map_id, String.ofList_toList]

end SignOn.Octets
