import SignOn.Encoding.Form
import SignOn.OAuth.Client
import SignOn.Proofs.Text.Ascii

/-!
# Forms and queries that read back

A form is read as the named values that it was written for, whatever their texts hold
(`Form.decode_encode`): the marks between names and values are never part of one, and only a space
is written as a plus sign. The queries of URLs for the provider are read as forms too, and percent-
encoding leaves nothing in their values that a form treats in a way of its own
(`decode_queryText`).
-/

namespace SignOn

namespace Percent

variable {keeps : UInt8 → Bool}

/-- Only a percent sign begins an escape. -/
theorem decode_cons_of_ne {b : UInt8} (h : b ≠ 0x25) (rest : Octets) :
    decode (b :: rest) = b :: decode rest := by
  rw [decode]
  exact fun _ _ _ he _ => h he

private theorem hexOctet?_upperHex {n : Nat} (h : n < 16) :
    hexOctet? (Text.upperHex n).toNat.toUInt8 = some n := by
  revert n
  decide

/-- The written form of an octet is read as this octet, unless it is a percent sign that is kept. -/
theorem decode_encodeOctet {b : UInt8} (h : keeps b = true → b ≠ 0x25) (rest : Octets) :
    decode ((encodeOctet keeps b).map (·.toNat.toUInt8) ++ rest) = b :: decode rest := by
  have hb := b.toNat_lt
  rw [encodeOctet]
  split
  · next hkept =>
    have hsame : (Char.ofNat b.toNat).toNat.toUInt8 = b := by
      rw [Octets.toNat_charOfNat (by omega), Nat.toUInt8_eq, UInt8.ofNat_toNat]
    rw [List.map_singleton, hsame, List.singleton_append, decode_cons_of_ne (h hkept)]
  · have hsame : (b.toNat / 16 * 16 + b.toNat % 16).toUInt8 = b := by
      rw [Nat.div_add_mod', Nat.toUInt8_eq, UInt8.ofNat_toNat]
    change decode (0x25 :: (Text.upperHex (b.toNat / 16)).toNat.toUInt8 ::
      (Text.upperHex (b.toNat % 16)).toNat.toUInt8 :: rest) = b :: decode rest
    simp only [decode, hexOctet?_upperHex (show b.toNat / 16 < 16 by omega),
      hexOctet?_upperHex (show b.toNat % 16 < 16 by omega), hsame]

/-- Reading what was written gives the octets back. -/
theorem decode_encode (hmark : keeps 0x25 = false) (bs : Octets) :
    decode ((encode keeps bs).map (·.toNat.toUInt8)) = bs := by
  have hplain : ∀ b, keeps b = true → b ≠ 0x25 := by
    rintro b hkept rfl
    rw [hmark] at hkept
    cases hkept
  rw [encode]
  induction bs with
  | nil => rfl
  | cons b bs ih => rw [List.flatMap_cons, List.map_append, decode_encodeOctet (hplain b), ih]

/-- The characters with a meaning of their own in a URL or a form. -/
def delimiters : List Char := ['/', '?', '&', '=', '+']

private theorem of_isUnreserved {b : UInt8} (h : isUnreserved b = true) :
    (0x21 ≤ b.toNat ∧ b.toNat ≤ 0x7E) ∧ Char.ofNat b.toNat ∉ delimiters := by
  have hall : ∀ n < 256, isUnreserved (UInt8.ofNat n) = true →
      (0x21 ≤ n ∧ n ≤ 0x7E) ∧ Char.ofNat n ∉ delimiters := by decide +kernel
  exact hall b.toNat b.toNat_lt (by rwa [UInt8.ofNat_toNat])

/-- The unreserved characters are visible. -/
theorem isGraphic_of_isUnreserved {b : UInt8} (h : isUnreserved b = true) : isGraphic b = true :=
  isGraphic_iff.mpr (of_isUnreserved h).1

/-- Values inside a URL are visible. -/
theorem asciiFrom_component (s : String) : Text.AsciiFrom 0x21 (component s).toList :=
  asciiFrom_encodeText (Nat.le_refl _) fun _ _ h => (of_isUnreserved h).1

/-- They hold nothing that has a meaning there. -/
theorem not_mem_component (s : String) {c : Char} (hc : c ∈ delimiters) :
    c ∉ (component s).toList := by
  have hall : ∀ d ∈ (component s).toList, d ∉ delimiters :=
    forall_mem_encodeText (by decide) (by decide) fun _ _ h => (of_isUnreserved h).2
  exact fun hmem => hall c hmem hc

end Percent

namespace Form

/-! ## Pieces between the marks -/

/-- A name and a value are told apart by the first equals sign. -/
theorem decodePair_append {name : List Char} (h : '=' ∉ name) (value : List Char) :
    decodePair (name ++ '=' :: value) = (decodeText name, decodeText value) := by
  rw [decodePair, Text.cutAt_append_cons h]

/-- A text of written pairs is read as these pairs, if each of them is read by itself. -/
theorem decode_joinWith {pairs : List (String × String)} {write : String × String → List Char}
    (hno : ∀ pair ∈ pairs, '&' ∉ write pair) (hfilled : ∀ pair ∈ pairs, write pair ≠ [])
    (hread : ∀ pair ∈ pairs, decodePair (write pair) = pair) :
    decode (String.ofList (Text.joinWith ['&'] (pairs.map write))) = pairs := by
  have hpieces : ∀ piece ∈ pairs.map write, '&' ∉ piece := List.forall_mem_map.mpr hno
  have hkept : ∀ piece ∈ pairs.map write, decide (piece ≠ []) = true :=
    List.forall_mem_map.mpr fun pair hpair => decide_eq_true (hfilled pair hpair)
  have hsame : pairs.map (decodePair ∘ write) = pairs.map id := List.map_congr_left hread
  cases pairs with
  | nil => rfl
  | cons first rest =>
    rw [decode, String.toList_ofList,
      Text.splitOn_joinWith (by simp) hpieces,
      List.filter_eq_self.mpr hkept, List.map_map, hsame, List.map_id]

/-! ## Written forms -/

variable {b : UInt8}

private def spaced (cs : List Char) : List Char := cs.map fun c => if c = '+' then ' ' else c

private theorem not_mem_delimiters_of_keeps (h : keeps b = true) :
    b.toNat < 0x80 ∧ Char.ofNat b.toNat ∉ Percent.delimiters := by
  have hall : ∀ n < 256, keeps (UInt8.ofNat n) = true →
      n < 0x80 ∧ Char.ofNat n ∉ Percent.delimiters := by decide +kernel
  exact hall b.toNat b.toNat_lt (by rwa [UInt8.ofNat_toNat])

private theorem spaced_encodeOctet (hb : b ≠ 0x20) :
    spaced (encodeOctet b) = Percent.encodeOctet keeps b := by
  have hplus : ∀ c ∈ Percent.encodeOctet keeps b, c ≠ '+' :=
    Percent.forall_mem_encodeOctet (by decide) (by decide) fun h hc =>
      (not_mem_delimiters_of_keeps h).2 (hc ▸ by decide)
  rw [encodeOctet, if_neg hb, spaced,
    List.map_congr_left fun c hc => if_neg (hplus c hc), List.map_id']

private theorem decode_spaced_encodeOctet (b : UInt8) (rest : Octets) :
    Percent.decode ((spaced (encodeOctet b)).map (·.toNat.toUInt8) ++ rest) =
      b :: Percent.decode rest := by
  by_cases hb : b = 0x20
  · subst hb
    exact Percent.decode_cons_of_ne (by decide) rest
  · have hmark : keeps b = true → b ≠ 0x25 := by
      rintro h rfl
      cases h
    rw [spaced_encodeOctet hb, Percent.decode_encodeOctet hmark]

private theorem decode_spaced (bs : Octets) :
    Percent.decode ((spaced (bs.flatMap encodeOctet)).map (·.toNat.toUInt8)) = bs := by
  induction bs with
  | nil => rfl
  | cons b bs ih =>
    rw [spaced] at ih
    rw [List.flatMap_cons, spaced, List.map_append, List.map_append, ← spaced,
      decode_spaced_encodeOctet, ih]

/-- A written name or value is ASCII and holds none of the marks between names and values. -/
theorem of_mem_encodeText {s : String} {c : Char} (hc : c ∈ encodeText s) :
    c.toNat < 0x80 ∧ c ≠ '&' ∧ c ≠ '=' := by
  obtain ⟨b, -, hb⟩ := List.mem_flatMap.mp hc
  have hkept : keeps b = true → (Char.ofNat b.toNat).toNat < 0x80 ∧
      Char.ofNat b.toNat ≠ '&' ∧ Char.ofNat b.toNat ≠ '=' := by
    intro h
    obtain ⟨hlow, hplain⟩ := not_mem_delimiters_of_keeps h
    rw [Octets.toNat_charOfNat (by omega)]
    exact ⟨hlow, fun he => hplain (he ▸ by decide), fun he => hplain (he ▸ by decide)⟩
  rw [encodeOctet] at hb
  split at hb
  · obtain rfl := List.mem_singleton.mp hb
    decide
  · exact Percent.forall_mem_encodeOctet (P := fun c => c.toNat < 0x80 ∧ c ≠ '&' ∧ c ≠ '=')
      (by decide) (by decide) hkept c hb

/-- A written name or value is read as the text that it was written for. -/
theorem decodeText_encodeText (s : String) : decodeText (encodeText s) = s := by
  have hlow : ∀ c ∈ (String.ofList (spaced (encodeText s))).toList, c.toNat < 0x80 := by
    rw [String.toList_ofList]
    refine List.forall_mem_map.mpr fun c hc => ?_
    split
    · decide
    · exact (of_mem_encodeText hc).1
  change Octets.lossyText (Percent.decode (Octets.ofText (String.ofList (spaced _)))) = s
  rw [Octets.ofText_of_forall_lt hlow, String.toList_ofList, encodeText, decode_spaced,
    Octets.lossyText_ofText]

/-- A form is read as the named values that it was written for. -/
theorem decode_encode (pairs : List (String × String)) : decode (encode pairs) = pairs := by
  refine decode_joinWith ?_ (fun pair _ => by simp) ?_
  · rintro ⟨name, value⟩ - hmem
    rcases List.mem_append.mp hmem with hmem | hmem
    · exact (of_mem_encodeText hmem).2.1 rfl
    · exact (of_mem_encodeText (List.mem_of_ne_of_mem (by decide) hmem)).2.1 rfl
  · rintro ⟨name, value⟩ -
    rw [decodePair_append fun hmem => (of_mem_encodeText hmem).2.2 rfl, decodeText_encodeText,
      decodeText_encodeText]

/-- Different named values are written as different forms. -/
theorem encode_injective : Function.Injective encode :=
  Function.LeftInverse.injective decode_encode

/-! ## Values of queries -/

/-- A value inside a URL is read as the text that it was written for. -/
theorem decodeText_component (s : String) : decodeText (Percent.component s).toList = s := by
  have hplus : ((Percent.component s).toList.map fun c => if c = '+' then ' ' else c) =
      (Percent.component s).toList.map id := by
    refine List.map_congr_left fun c hc => if_neg ?_
    rintro rfl
    exact Percent.not_mem_component s (by decide) hc
  have hlow : ∀ c ∈ (Percent.component s).toList, c.toNat < 0x80 := by
    intro c hc
    have := Percent.asciiFrom_component s c hc
    omega
  have hdecode : Percent.decode (Octets.ofText (Percent.component s)) = Octets.ofText s := by
    rw [Octets.ofText_of_forall_lt hlow, Percent.component, Percent.encodeText,
      String.toList_ofList, Percent.decode_encode (by decide)]
  rw [decodeText, hplus, List.map_id, String.ofList_toList, hdecode, Octets.lossyText_ofText]

end Form

namespace OAuthClient

variable {pairs : List (String × String)}

private def written (pair : String × String) : List Char :=
  pair.1.toList ++ '=' :: (Percent.component pair.2).toList

private theorem toList_queryText (pairs : List (String × String)) :
    (queryText pairs).toList = Text.joinWith ['&'] (pairs.map written) := by
  rw [queryText, Text.join, String.toList_ofList, List.map_map]
  refine congrArg (Text.joinWith ['&']) (List.map_congr_left fun pair _ => ?_)
  simp [written]

/-- The characters of a query are those of written values and the two between these, if its names
need no encoding. -/
theorem forall_mem_queryText {P : Char → Prop} (hpairs : P '&') (hvalue : P '=')
    (hwritten : ∀ s, ∀ c ∈ (Percent.component s).toList, P c)
    (hnames : ∀ pair ∈ pairs, Percent.component pair.1 = pair.1) :
    ∀ c ∈ (queryText pairs).toList, P c := by
  rw [toList_queryText, Text.forall_mem_joinWith_iff (List.forall_mem_singleton.mpr hpairs)]
  refine List.forall_mem_map.mpr fun pair hpair => ?_
  have hname := hwritten pair.1
  rw [hnames pair hpair] at hname
  exact List.forall_mem_append.mpr
    ⟨hname, List.forall_mem_cons.mpr ⟨hvalue, hwritten pair.2⟩⟩

private theorem decodePair_written {pair : String × String}
    (hname : Percent.component pair.1 = pair.1) : Form.decodePair (written pair) = pair := by
  have hno : '=' ∉ pair.1.toList := by
    rw [← hname]
    exact Percent.not_mem_component _ (by decide)
  have htext : Form.decodeText pair.1.toList = pair.1 := by
    conv_lhs => rw [← hname]
    exact Form.decodeText_component pair.1
  rw [written, Form.decodePair_append hno, htext, Form.decodeText_component]

/-- A query is read as the pairs that it was written for, if their names need no encoding. -/
theorem decode_queryText (hnames : ∀ pair ∈ pairs, Percent.component pair.1 = pair.1) :
    Form.decode (queryText pairs) = pairs := by
  have hno : ∀ pair ∈ pairs, '&' ∉ written pair := by
    intro pair hpair hmem
    rcases List.mem_append.mp hmem with hmem | hmem
    · rw [← hnames pair hpair] at hmem
      exact Percent.not_mem_component _ (by decide) hmem
    · exact Percent.not_mem_component pair.2 (by decide)
        (List.mem_of_ne_of_mem (by decide) hmem)
  rw [← String.ofList_toList (s := queryText pairs), toList_queryText]
  exact Form.decode_joinWith hno (fun pair _ => by simp [written])
    fun pair hpair => decodePair_written (hnames pair hpair)

end OAuthClient

end SignOn
