import SignOn.Encoding.Percent
import SignOn.Proofs.Text.Utf8

/-!
# Texts of printable ASCII

Written forms keep to the printable characters of ASCII, with the space or without it. Percent
encoding and numerals do so whatever they encode.
-/

namespace SignOn.Text

/-- Whether all characters lie between a lower bound and the tilde. -/
def AsciiFrom (low : Nat) (cs : List Char) : Prop := ∀ c ∈ cs, low ≤ c.toNat ∧ c.toNat ≤ 0x7E

variable {low : Nat} {cs ds : List Char}

/-- No characters keep to every bound. -/
@[simp] theorem asciiFrom_nil : AsciiFrom low [] := fun _ h => absurd h List.not_mem_nil

@[simp] theorem asciiFrom_cons {c : Char} :
    AsciiFrom low (c :: cs) ↔ (low ≤ c.toNat ∧ c.toNat ≤ 0x7E) ∧ AsciiFrom low cs :=
  List.forall_mem_cons

@[simp] theorem asciiFrom_append : AsciiFrom low (cs ++ ds) ↔ AsciiFrom low cs ∧ AsciiFrom low ds :=
  List.forall_mem_append

/-- The bound may be lowered. -/
theorem AsciiFrom.mono {low' : Nat} (h : AsciiFrom low cs) (hle : low' ≤ low) :
    AsciiFrom low' cs := by
  intro c hc
  have := h c hc
  omega

/-- A test of all characters at once. -/
theorem asciiFrom_of_all (h : cs.all (fun c => low ≤ c.toNat && c.toNat ≤ 0x7E) = true) :
    AsciiFrom low cs := by
  intro c hc
  simpa using List.all_eq_true.mp h c hc

/-- What holds of one character of ASCII after the other holds of all. -/
theorem forall_ascii {P : Char → Prop} (h : ∀ n < 0x80, P (Char.ofNat n)) (c : Char)
    (hc : c.toNat < 0x80) : P c := by
  have hn := h c.toNat hc
  rwa [Char.ofNat_toNat] at hn

/-- Visible characters stay visible in lower case. -/
theorem AsciiFrom.map_toLower (h : AsciiFrom 0x21 cs) : AsciiFrom 0x21 (cs.map Char.toLower) := by
  have hlower : ∀ c : Char, c.toNat < 0x80 → 0x21 ≤ c.toNat ∧ c.toNat ≤ 0x7E →
      0x21 ≤ c.toLower.toNat ∧ c.toLower.toNat ≤ 0x7E := forall_ascii (by decide)
  intro c hc
  obtain ⟨d, hd, rfl⟩ := List.mem_map.mp hc
  have hvisible := h d hd
  exact hlower d (by omega) hvisible

/-- Letters are visible. -/
theorem asciiFrom_of_isAlpha {c : Char} (h : c.isAlpha = true) : AsciiFrom 0x21 [c] := by
  change (decide ('A'.val ≤ c.val ∧ c.val ≤ 'Z'.val) ||
    decide ('a'.val ≤ c.val) && decide (c.val ≤ 'z'.val)) = true at h
  simp only [Bool.or_eq_true, Bool.and_eq_true, decide_eq_true_eq, UInt32.le_iff_toNat_le] at h
  change (65 ≤ c.toNat ∧ c.toNat ≤ 90) ∨ (97 ≤ c.toNat ∧ c.toNat ≤ 122) at h
  rw [asciiFrom_cons]
  exact ⟨by omega, asciiFrom_nil⟩

/-- Digits are visible. -/
theorem asciiFrom_of_isDigit {c : Char} (h : c.isDigit = true) : AsciiFrom 0x21 [c] := by
  have hc := Char.isDigit_iff_toNat.mp h
  change 48 ≤ c.toNat ∧ c.toNat ≤ 57 at hc
  rw [asciiFrom_cons]
  exact ⟨by omega, asciiFrom_nil⟩

/-- Characters that are written for several things keep to a bound that all of them keep to. -/
theorem asciiFrom_flatMap {α : Type} {xs : List α} {f : α → List Char}
    (h : ∀ x ∈ xs, AsciiFrom low (f x)) : AsciiFrom low (xs.flatMap f) := by
  intro c hc
  obtain ⟨x, hx, hcx⟩ := List.mem_flatMap.mp hc
  exact h x hx c hcx

/-- What holds of the characters of the separator holds of all characters of joined pieces exactly
when it holds of those of each piece. -/
theorem forall_mem_joinWith_iff {P : Char → Prop} {sep : List Char} {pieces : List (List Char)}
    (hsep : ∀ c ∈ sep, P c) :
    (∀ c ∈ joinWith sep pieces, P c) ↔ ∀ piece ∈ pieces, ∀ c ∈ piece, P c := by
  induction pieces with
  | nil => simp [joinWith]
  | cons piece pieces ih =>
    cases pieces with
    | nil => simp [joinWith]
    | cons next pieces =>
      rw [joinWith, List.append_assoc, List.forall_mem_append, List.forall_mem_append,
        List.forall_mem_cons, ih]
      exact and_congr_right fun _ => and_iff_right hsep

/-- The hexadecimal digits of upper case are visible. -/
theorem asciiFrom_upperHex {n : Nat} (h : n < 16) : AsciiFrom 0x21 [upperHex n] := by
  have hall : ∀ m < 16, 0x21 ≤ (upperHex m).toNat ∧ (upperHex m).toNat ≤ 0x7E := by decide
  simpa using hall n h

/-- The hexadecimal digits of lower case are visible. -/
theorem asciiFrom_lowerHex {n : Nat} (h : n < 16) : AsciiFrom 0x21 [lowerHex n] := by
  have hall : ∀ m < 16, 0x21 ≤ (lowerHex m).toNat ∧ (lowerHex m).toNat ≤ 0x7E := by decide
  simpa using hall n h

/-- The hexadecimal form of octets is visible. -/
theorem asciiFrom_hexOfOctets (bs : List UInt8) : AsciiFrom 0x21 (hexOfOctets bs).toList := by
  rw [hexOfOctets, String.toList_ofList]
  refine asciiFrom_flatMap fun b _ => ?_
  have hb := b.toNat_lt
  exact asciiFrom_append.mpr ⟨asciiFrom_lowerHex (show b.toNat / 16 < 16 by omega),
    asciiFrom_lowerHex (show b.toNat % 16 < 16 by omega)⟩

/-- Hexadecimal numerals are made of hexadecimal digits. -/
theorem forall_mem_hexNumeral {P : Char → Prop} (hdigit : ∀ n < 16, P (lowerHex n)) (n : Nat) :
    ∀ c ∈ hexNumeral n, P c := by
  induction n using Nat.strongRecOn with
  | ind n ih =>
    rw [hexNumeral]
    split
    · next h => exact List.forall_mem_singleton.mpr (hdigit n h)
    · next h =>
      exact List.forall_mem_append.mpr ⟨ih (n / 16) (by omega),
        List.forall_mem_singleton.mpr (hdigit _ (Nat.mod_lt _ (by omega)))⟩

/-- Decimal numerals are made of digits. -/
theorem isDigit_of_mem_toString {n : Nat} {c : Char} (hc : c ∈ (toString n).toList) :
    c.isDigit = true := by
  have hd : c ∈ Nat.toDigits 10 n := by simpa using hc
  exact Nat.isDigit_of_mem_toDigits (by decide) (by decide) hd

/-- Decimal numerals are visible. -/
theorem asciiFrom_toString (n : Nat) : AsciiFrom 0x21 (toString n).toList := fun _ hc =>
  (asciiFrom_cons.mp (asciiFrom_of_isDigit (isDigit_of_mem_toString hc))).1

/-- So are those of integers. -/
theorem asciiFrom_toString_int (n : Int) : AsciiFrom 0x21 (toString n).toList := by
  cases n with
  | ofNat n => exact asciiFrom_toString n
  | negSucc n =>
    change AsciiFrom 0x21 ("-" ++ toString (n + 1)).toList
    rw [String.toList_append, asciiFrom_append]
    exact ⟨asciiFrom_of_all (by decide), asciiFrom_toString (n + 1)⟩

end SignOn.Text

namespace SignOn.Percent

open Text (AsciiFrom)

variable {low : Nat} {keeps : UInt8 → Bool}

/-- The written form of an octet is made of the octet or of a percent sign and hexadecimal digits.
-/
theorem forall_mem_encodeOctet {P : Char → Prop} (hmark : P '%')
    (hdigit : ∀ n < 16, P (Text.upperHex n)) {b : UInt8}
    (hkeeps : keeps b = true → P (Char.ofNat b.toNat)) : ∀ c ∈ encodeOctet keeps b, P c := by
  have hb := b.toNat_lt
  rw [encodeOctet]
  split
  · next h => exact List.forall_mem_singleton.mpr (hkeeps h)
  · exact List.forall_mem_cons.mpr ⟨hmark, List.forall_mem_cons.mpr
      ⟨hdigit _ (by omega), List.forall_mem_singleton.mpr (hdigit _ (by omega))⟩⟩

/-- So is that of a text, octet by octet. -/
theorem forall_mem_encodeText {P : Char → Prop} (hmark : P '%')
    (hdigit : ∀ n < 16, P (Text.upperHex n)) {s : String}
    (hkeeps : ∀ b ∈ Octets.ofText s, keeps b = true → P (Char.ofNat b.toNat)) :
    ∀ c ∈ (encodeText keeps s).toList, P c := by
  rw [encodeText, String.toList_ofList, encode]
  intro c hc
  obtain ⟨b, hb, hc⟩ := List.mem_flatMap.mp hc
  exact forall_mem_encodeOctet hmark hdigit (hkeeps b hb) c hc

/-- The written form of an octet keeps to a bound if the octet does or is not kept. -/
theorem asciiFrom_encodeOctet (hlow : low ≤ 0x21) {b : UInt8}
    (hkeeps : keeps b = true → low ≤ b.toNat ∧ b.toNat ≤ 0x7E) :
    AsciiFrom low (encodeOctet keeps b) := by
  have hb := b.toNat_lt
  have hmark : low ≤ '%'.toNat ∧ '%'.toNat ≤ 0x7E := by
    change low ≤ 0x25 ∧ 0x25 ≤ 0x7E
    omega
  refine forall_mem_encodeOctet hmark (fun n hn => ?_) fun h => ?_
  · exact (Text.asciiFrom_cons.mp ((Text.asciiFrom_upperHex hn).mono hlow)).1
  · rw [Octets.toNat_charOfNat (by omega)]
    exact hkeeps h

/-- Percent-encoded texts keep to the bound that the kept ones of their octets keep to. -/
theorem asciiFrom_encodeText (hlow : low ≤ 0x21) {s : String}
    (hkeeps : ∀ b ∈ Octets.ofText s, keeps b = true → low ≤ b.toNat ∧ b.toNat ≤ 0x7E) :
    AsciiFrom low (encodeText keeps s).toList := by
  rw [encodeText, String.toList_ofList, encode]
  exact Text.asciiFrom_flatMap fun b hb => asciiFrom_encodeOctet hlow (hkeeps b hb)

/-- A character of ASCII that is kept stays as it is. -/
theorem encodeOctet_of_keeps {c : Char} (hc : c.toNat < 0x80)
    (h : keeps c.toNat.toUInt8 = true) : encodeOctet keeps c.toNat.toUInt8 = [c] := by
  have hn : c.toNat.toUInt8.toNat = c.toNat := UInt8.toNat_ofNat_of_lt' (by change _ < 256; omega)
  rw [encodeOctet, if_pos h, hn, Char.ofNat_toNat]

/-- A text of such characters stays as it is. -/
theorem encodeText_of_keeps {cs : List Char}
    (h : ∀ c ∈ cs, c.toNat < 0x80 ∧ keeps c.toNat.toUInt8 = true) :
    encodeText keeps (String.ofList cs) = String.ofList cs := by
  have hlow : ∀ c ∈ (String.ofList cs).toList, c.toNat < 0x80 := by
    rw [String.toList_ofList]
    exact fun c hc => (h c hc).1
  have hsame : cs.flatMap (fun c => encodeOctet keeps c.toNat.toUInt8) = cs.flatMap fun c => [c] :=
    List.flatMap_congr fun c hc => encodeOctet_of_keeps (h c hc).1 (h c hc).2
  rw [encodeText, encode, Octets.ofText_of_forall_lt hlow, String.toList_ofList, List.flatMap_map,
    hsame, List.flatMap_singleton']

/-- The visible octets are those between the space and the delete. -/
theorem isGraphic_iff {b : UInt8} : isGraphic b = true ↔ 0x21 ≤ b.toNat ∧ b.toNat ≤ 0x7E := by
  simp [isGraphic, UInt8.le_iff_toNat_le]

end SignOn.Percent
