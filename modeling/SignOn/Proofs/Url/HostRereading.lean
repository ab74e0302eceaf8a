import SignOn.Proofs.Encoding.Form
import SignOn.Proofs.Text.Trim
import SignOn.Proofs.Url.Rereading

/-!
# Hosts that read back

The text of a host is read as this host. For addresses this holds by their numerals: those of an
IPv4 address are decimal and those of an IPv6 address hexadecimal, and the one double colon of the
latter stands for the longest run of zeros. A domain name is its own ASCII form, unless parts of it
are Punycode; of those names nothing is said here (`Url.parseDomainHost_text`).
-/

namespace SignOn

namespace Percent

/-- Octets without a percent sign hold no escape. -/
theorem decode_of_not_mem {bs : Octets} (h : 0x25 ∉ bs) : decode bs = bs := by
  induction bs with
  | nil => rfl
  | cons b bs ih =>
    rw [decode_cons_of_ne fun e => h (e ▸ List.mem_cons_self),
      ih fun hm => h (List.mem_cons_of_mem _ hm)]

end Percent

namespace Idna

variable {cs name : List Char}

/-- A name in lower case that has no label in Punycode is its own ASCII form. -/
theorem toAscii?_of_lower (hname : IsNameText cs) (hplain : isPlain cs = true)
    (hlower : ∀ c ∈ cs, c.toLower = c) : toAscii? cs = some cs := by
  have hallowed : ¬ cs.any isForbidden = true := by
    rw [List.any_eq_true]
    rintro ⟨c, hc, hforbidden⟩
    rw [(hname c hc).2] at hforbidden
    cases hforbidden
  rw [toAscii?, if_pos hplain, if_neg hallowed, List.map_congr_left hlower, List.map_id']

/-- A label that is read and is not in Punycode has its ASCII letters in lower case. -/
private theorem toLower_of_unicodeLabel? {label shown : List Char}
    (h : unicodeLabel? label = some shown) (hmark : hasAceMark label = false) :
    ∀ c ∈ label, c.toNat < 0x80 → c.toLower = c := by
  rw [unicodeLabel?, if_neg (by simp [hmark])] at h
  split at h
  · next hwell =>
    simp only [isWellFormed, Bool.and_eq_true] at hwell
    intro c hc hlow
    have hkept := List.all_eq_true.mp hwell.1.1.1.1.2 c hc
    rw [isKept, if_pos hlow] at hkept
    simpa using hkept
  · cases h

private theorem hasAceMark_append (label : List Char) : hasAceMark ("xn--".toList ++ label) = true :=
  List.isPrefixOf_iff_prefix.mpr (List.prefix_append _ _)

private theorem hasAceMark_map_toLower {label : List Char} (h : hasAceMark label = true) :
    hasAceMark (label.map Char.toLower) = true := by
  have hlabel : "xn--".toList ++ label.drop 4 = label :=
    List.prefix_iff_eq_append.mp (List.isPrefixOf_iff_prefix.mp h)
  rw [← hlabel, List.map_append]
  exact hasAceMark_append _

/-- The ASCII form of a label, if it has no part in Punycode, is the label. -/
private theorem of_asciiLabel {label : List Char} (hdot : '.' ∉ label)
    (h : ∀ piece ∈ Text.splitOn '.' (asciiLabel label),
      hasAceMark (piece.map Char.toLower) = false) :
    asciiLabel label = label ∧ hasAceMark label = false ∧ ∀ c ∈ label, c.toNat < 0x80 := by
  by_cases hlow : label.all (·.toNat < 0x80) = true
  · have hsame : asciiLabel label = label := if_pos hlow
    rw [hsame, Text.splitOn_of_not_mem hdot] at h
    have hmark := h label List.mem_cons_self
    refine ⟨hsame, ?_, by simpa using hlow⟩
    cases hace : hasAceMark label with
    | false => rfl
    | true => rw [hasAceMark_map_toLower hace] at hmark; exact hmark
  · have hcoded : asciiLabel label = "xn--".toList ++ Punycode.encode label := if_neg hlow
    cases hsplit : Text.splitOn '.' (Punycode.encode label) with
    | nil => exact absurd hsplit (Text.splitOn_ne_nil _ _)
    | cons piece pieces =>
      rw [hcoded, Text.splitOn_append_front (by decide) hsplit] at h
      have hmark := h _ List.mem_cons_self
      rw [hasAceMark_map_toLower (hasAceMark_append piece)] at hmark
      cases hmark

/-- A name whose labels have been mapped is in lower case, unless parts of it are Punycode. -/
private theorem toLower_of_mapDomain? (h : mapDomain? cs = some name)
    (hplain : isPlain name = true) : ∀ c ∈ name, c.toLower = c := by
  unfold mapDomain? at h
  simp only [Option.bind_eq_bind] at h
  obtain ⟨mapped, -, h⟩ := Option.bind_eq_some_iff.mp h
  obtain ⟨shown, hshown, h⟩ := Option.bind_eq_some_iff.mp h
  split at h
  · cases h
  · obtain rfl := Option.some.inj h
    simp only [isPlain, Bool.and_eq_true, List.all_eq_true, Bool.not_eq_true'] at hplain
    have hpieces := hplain.2
    rw [Text.splitOn_joinWith_eq (by simpa using Text.splitOn_ne_nil _ _), List.flatMap_map]
      at hpieces
    have hdots : ∀ c ∈ ['.'], c.toLower = c := List.forall_mem_singleton.mpr (by decide)
    refine (Text.forall_mem_joinWith_iff hdots).mpr ?_
    rw [List.forall_mem_map]
    intro label hl
    obtain ⟨s, hs⟩ := exists_of_mapM hshown label hl
    have hlabel : '.' ∉ label := fun hm => (Text.of_mem_splitOn hl _ hm).1 rfl
    obtain ⟨hsame, hmark, hlow⟩ := of_asciiLabel hlabel fun piece hp =>
      hpieces piece (List.mem_flatMap.mpr ⟨label, hl, hp⟩)
    rw [hsame]
    exact fun c hc => toLower_of_unicodeLabel? hs hmark c hc (hlow c hc)

/-- The ASCII form of a name is in lower case, unless parts of it are Punycode. -/
theorem toLower_of_toAscii? (h : toAscii? cs = some name) (hplain : isPlain name = true) :
    ∀ c ∈ name, c.toLower = c := by
  unfold toAscii? at h
  split at h
  · next hcs =>
    split at h
    · cases h
    · obtain rfl := Option.some.inj h
      have htwice : ∀ c : Char, c.toNat < 0x80 → c.toLower.toLower = c.toLower :=
        Text.forall_ascii (by decide)
      simp only [isPlain, Bool.and_eq_true, List.all_eq_true, decide_eq_true_eq] at hcs
      intro c hc
      obtain ⟨d, hd, rfl⟩ := List.mem_map.mp hc
      exact htwice d (hcs.1 d hd)
  · exact toLower_of_mapDomain? h hplain

end Idna

namespace Url

open Text (decimalDigit? hexDigit? hexNumeral lowerHex)

variable {cs : List Char}

/-! ## Domain names -/

/-- A text that is its own ASCII form is read as the host that it stands for. -/
theorem parseDomainHost_of_toAscii? (hname : Idna.IsNameText cs) (h : Idna.toAscii? cs = some cs) :
    parseDomainHost cs = hostOfDomain cs := by
  have hbracket : bracketed? cs = none := by
    unfold bracketed?
    split
    · have hforbidden := (hname '[' List.mem_cons_self).2
      cases hforbidden
    · rfl
  have hlow : ∀ c ∈ (String.ofList cs).toList, c.toNat < 0x80 := by
    rw [String.toList_ofList]
    exact fun c hc => (hname c hc).1
  have hdecode : Percent.decode (Octets.ofText (String.ofList cs)) =
      Octets.ofText (String.ofList cs) := by
    refine Percent.decode_of_not_mem fun hm => ?_
    rw [Octets.ofText_of_forall_lt hlow, String.toList_ofList] at hm
    obtain ⟨c, hc, hmark⟩ := List.mem_map.mp hm
    have hn : c.toNat % 256 = 0x25 := congrArg UInt8.toNat hmark
    have hlow := (hname c hc).1
    have hmod : c.toNat = '%'.toNat := (Nat.mod_eq_of_lt (by omega)).symm.trans hn
    obtain rfl : c = '%' := Char.toNat_inj.mp hmod
    have hforbidden := (hname _ hc).2
    cases hforbidden
  simp only [parseDomainHost, hbracket, hdecode, Octets.text?_ofText, Option.bind_some,
    String.toList_ofList, h]

/-- A name that is read from a text reads back, unless parts of it are Punycode. -/
theorem parseDomainHost_domain {name : String} (h : parseDomainHost cs = .ok (.domain name))
    (hplain : Idna.isPlain name.toList = true) :
    parseDomainHost name.toList = .ok (.domain name) := by
  have hserver := isServer_of_parseDomainHost h
  unfold parseDomainHost at h
  split at h
  · next hb =>
    obtain ⟨pieces, hpieces⟩ := ipv6_of_bracketed? hb h
    cases hpieces
  split at h
  · next found hfound =>
    obtain ⟨s, -, hs⟩ := Option.bind_eq_some_iff.mp hfound
    have hhost := h
    unfold hostOfDomain at h
    split at h
    · cases h
    split at h
    · split at h
      · cases h
      · cases h
    · obtain rfl : String.ofList found = name := by
        injection Except.ok.inj h
      rw [String.toList_ofList] at hplain ⊢
      have hname := Idna.isNameText_toAscii? hs
      rw [parseDomainHost_of_toAscii? hname
        (Idna.toAscii?_of_lower hname hplain (Idna.toLower_of_toAscii? hs hplain)), hhost]
  · cases h

/-! ## Numerals -/

/-- A numeral that is written digit by digit is read as its number. -/
private theorem numeral?_eq_some {base : Nat} (hbase : 1 < base) {digit? : Char → Option Nat}
    {digit : Nat → Char} (hdigit : ∀ d < base, digit? (digit d) = some d)
    {write : Nat → List Char}
    (hwrite : ∀ n, write n =
      if n < base then [digit n] else write (n / base) ++ [digit (n % base)]) (n : Nat) :
    numeral? base digit? (write n) = some n := by
  have hconcat : ∀ (cs : List Char) (m d : Nat), numeral? base digit? cs = some m → d < base →
      numeral? base digit? (cs ++ [digit d]) = some (m * base + d) := by
    intro cs m d hcs hd
    have hfold : ∀ ds : List Char, numeral? base digit? ds = ds.foldl (fun n c => do
        let n ← n
        let d ← digit? c
        if d < base then some (n * base + d) else none) (some 0) := by
      intro ds
      cases ds <;> rfl
    rw [hfold] at hcs ⊢
    rw [List.foldl_append, hcs]
    simp [hdigit d hd, hd]
  induction n using Nat.strongRecOn with
  | ind n ih =>
    rw [hwrite]
    split
    · next h =>
      have hone := hconcat [] 0 n rfl h
      rwa [Nat.zero_mul, Nat.zero_add] at hone
    · next h =>
      rw [hconcat _ _ _ (ih (n / base) (Nat.div_lt_self (by omega) hbase))
        (Nat.mod_lt _ (by omega)), Nat.div_add_mod']

/-- A hexadecimal numeral is read as its number. -/
theorem numeral?_hexNumeral (n : Nat) : numeral? 16 hexDigit? (hexNumeral n) = some n :=
  numeral?_eq_some (by decide) (fun _ h => Text.hexDigit?_lowerHex h)
    (fun n => by rw [hexNumeral]) n

/-- One more hexadecimal digit writes sixteen times as many numbers. -/
private theorem length_hexNumeral_le {k n : Nat} (h : (hexNumeral (n / 16)).length ≤ k) :
    (hexNumeral n).length ≤ k + 1 := by
  rw [hexNumeral]
  split
  · simp
  · rw [List.length_append, List.length_singleton]
    exact Nat.succ_le_succ h

private theorem hexNumeral_ne_nil (n : Nat) : hexNumeral n ≠ [] := by
  rw [hexNumeral]
  split <;> simp

/-! ## IPv4 addresses -/

private theorem ipv4Number?_toString :
    ∀ n < 0x100, ipv4Number? (toString n).toList = some n := by
  decide +kernel

private theorem ipv4OfNumbers?_octets (address : UInt32) :
    ipv4OfNumbers? [address.toNat / 0x1000000, address.toNat / 0x10000 % 0x100,
      address.toNat / 0x100 % 0x100, address.toNat % 0x100] = some address := by
  have hbound := address.toNat_lt
  generalize hn : address.toNat = n at hbound ⊢
  have hsum : n % 0x100 + (n / 0x1000000) <<< 24 + (n / 0x10000 % 0x100) <<< 16 +
      (n / 0x100 % 0x100) <<< 8 = n := by
    simp only [Nat.shiftLeft_eq]
    omega
  have haddress : n.toUInt32 = address := by
    rw [← hn, Nat.toUInt32_eq, UInt32.ofNat_toNat]
  rw [← haddress]
  conv_rhs => rw [← hsum]
  refine if_neg ?_
  simp [Nat.shiftLeft_eq]
  omega

theorem toList_toString_ne_nil (n : Nat) : (toString n).toList ≠ [] := by
  change n.repr.toList ≠ []
  rw [Nat.toList_repr]
  exact Nat.toDigits_ne_nil

theorem decimalDigit?_of_isDigit {c : Char} (h : c.isDigit = true) :
    decimalDigit? c = some (c.toNat - '0'.toNat) := by
  simp only [Char.isDigit, Bool.and_eq_true, decide_eq_true_eq] at h
  exact if_pos h

/-- Numbers with dots between them are cut apart at the dots. -/
private theorem dottedParts_join {numbers : List Nat} (hne : numbers ≠ []) :
    dottedParts (Text.join "." (numbers.map toString)).toList =
      numbers.map fun n => (toString n).toList := by
  have hsplit : Text.splitOn '.' (Text.join "." (numbers.map toString)).toList =
      numbers.map fun n => (toString n).toList := by
    rw [Text.join, String.toList_ofList, List.map_map]
    refine Text.splitOn_joinWith (by simpa using hne) ?_
    rw [List.forall_mem_map]
    intro n _ hdot
    have hdigit := Text.isDigit_of_mem_toString hdot
    cases hdigit
  have hlast : ¬ (numbers.map fun n => (toString n).toList).getLast? = some [] := by
    intro hlast
    obtain ⟨n, -, hn⟩ := List.mem_map.mp (List.mem_of_getLast? hlast)
    exact toList_toString_ne_nil n hn
  rw [dottedParts, hsplit]
  exact if_neg hlast

private theorem mapM_eq_some_self {α : Type} {f : α → Option α} {xs : List α}
    (h : ∀ x ∈ xs, f x = some x) : xs.mapM f = some xs := by
  induction xs with
  | nil => rfl
  | cons x xs ih =>
    rw [List.forall_mem_cons] at h
    rw [List.mapM_cons, h.1, ih h.2]
    rfl

/-- The numbers of an IPv4 address. -/
private def octets (address : UInt32) : List Nat :=
  [address.toNat / 0x1000000, address.toNat / 0x10000 % 0x100, address.toNat / 0x100 % 0x100,
    address.toNat % 0x100]

private theorem dottedParts_ipv4Text (address : UInt32) :
    dottedParts (ipv4Text address).toList = (octets address).map fun n => (toString n).toList :=
  dottedParts_join (List.cons_ne_nil _ _)

/-- The text of an IPv4 address is read as an address. -/
private theorem endsInNumber_ipv4Text (address : UInt32) :
    endsInNumber (ipv4Text address).toList = true := by
  have hlast : (dottedParts (ipv4Text address).toList).getLast? =
      some (toString (address.toNat % 0x100)).toList := by
    rw [dottedParts_ipv4Text]
    rfl
  have hdigits : (toString (address.toNat % 0x100)).toList.all
      (fun c => (decimalDigit? c).isSome) = true := by
    rw [List.all_eq_true]
    intro c hc
    rw [decimalDigit?_of_isDigit (Text.isDigit_of_mem_toString hc)]
    rfl
  rw [endsInNumber, hlast]
  change (decide (_ ≠ []) && List.all _ _ || _) = true
  rw [hdigits, decide_eq_true (toList_toString_ne_nil _)]
  rfl

private theorem parseIpv4?_ipv4Text (address : UInt32) :
    parseIpv4? (ipv4Text address).toList = some address := by
  have hbound := address.toNat_lt
  have hoctets : ∀ n ∈ octets address, ipv4Number? (toString n).toList = some n := by
    simp only [octets, List.forall_mem_cons]
    exact ⟨ipv4Number?_toString _ (by omega), ipv4Number?_toString _ (by omega),
      ipv4Number?_toString _ (by omega), ipv4Number?_toString _ (by omega),
      fun _ h => absurd h List.not_mem_nil⟩
  have hnumbers : ((octets address).map fun n => (toString n).toList).mapM ipv4Number? =
      some (octets address) := by
    rw [List.mapM_map]
    exact mapM_eq_some_self hoctets
  rw [parseIpv4?, dottedParts_ipv4Text]
  simp only [Option.bind_eq_bind, hnumbers]
  exact ipv4OfNumbers?_octets address

/-- What the digits and dots of an IPv4 address are to a domain name. -/
theorem isNameText_ipv4Text (address : UInt32) :
    Idna.IsNameText (ipv4Text address).toList ∧
      ∀ c ∈ (ipv4Text address).toList, c.toLower = c ∧ c ≠ 'x' := by
  have hascii : ∀ c : Char, c.toNat < 0x80 → c.isDigit = true →
      Idna.isForbidden c = false ∧ c.toLower = c ∧ c ≠ 'x' := Text.forall_ascii (by decide)
  have hchars : ∀ c ∈ (ipv4Text address).toList,
      c.toNat < 0x80 ∧ Idna.isForbidden c = false ∧ c.toLower = c ∧ c ≠ 'x' := by
    have hdots : ∀ c ∈ ['.'], c.toNat < 0x80 ∧ Idna.isForbidden c = false ∧ c.toLower = c ∧
        c ≠ 'x' := List.forall_mem_singleton.mpr (by decide)
    rw [ipv4Text, Text.join, String.toList_ofList]
    refine (Text.forall_mem_joinWith_iff hdots).mpr ?_
    simp only [List.forall_mem_map]
    intro n _ c hc
    have hdigit := Text.isDigit_of_mem_toString hc
    have hlow := (Text.asciiFrom_cons.mp (Text.asciiFrom_of_isDigit hdigit)).1
    exact ⟨by omega, hascii c (by omega) hdigit⟩
  exact ⟨fun c hc => ⟨(hchars c hc).1, (hchars c hc).2.1⟩, fun c hc => (hchars c hc).2.2⟩

/-- IPv4 addresses read back. -/
theorem parseDomainHost_ipv4 (address : UInt32) :
    parseDomainHost (ipv4Text address).toList = .ok (.ipv4 address) := by
  obtain ⟨hname, hlower⟩ := isNameText_ipv4Text address
  have hplain : Idna.isPlain (ipv4Text address).toList = true := by
    simp only [Idna.isPlain, Bool.and_eq_true, List.all_eq_true, decide_eq_true_eq,
      Bool.not_eq_true']
    refine ⟨fun c hc => (hname c hc).1, fun label hl => ?_⟩
    have hsame : label.map Char.toLower = label := by
      rw [List.map_congr_left fun c hc => (hlower c (Text.of_mem_splitOn hl c hc).2).1,
        List.map_id']
    cases hmark : Idna.hasAceMark (label.map Char.toLower) with
    | false => rfl
    | true =>
      rw [hsame] at hmark
      have hx : 'x' ∈ label := (List.isPrefixOf_iff_prefix.mp hmark).subset List.mem_cons_self
      exact absurd rfl (hlower 'x' (Text.of_mem_splitOn hl 'x' hx).2).2
  have hne : (ipv4Text address).toList ≠ [] := @Host.IsServer.text_ne_nil (.ipv4 address) trivial
  rw [parseDomainHost_of_toAscii? hname
    (Idna.toAscii?_of_lower hname hplain fun c hc => (hlower c hc).1), hostOfDomain, if_neg hne,
    if_pos (endsInNumber_ipv4Text address), parseIpv4?_ipv4Text]

/-! ## IPv6 addresses -/

private theorem ipv6Piece?_hexNumeral (p : UInt16) :
    ipv6Piece? (hexNumeral p.toNat) = some p := by
  have hbound := p.toNat_lt
  have hfirst : (hexNumeral (p.toNat / 16 / 16 / 16)).length ≤ 1 := by
    rw [hexNumeral, if_pos (by omega)]
    exact Nat.le_refl 1
  have hlength : (hexNumeral p.toNat).length ≤ 4 :=
    length_hexNumeral_le (length_hexNumeral_le (length_hexNumeral_le hfirst))
  have hgood : ¬ (hexNumeral p.toNat = [] ∨ 4 < (hexNumeral p.toNat).length) :=
    not_or.mpr ⟨hexNumeral_ne_nil _, Nat.not_lt.mpr hlength⟩
  rw [ipv6Piece?, if_neg hgood, numeral?_hexNumeral, Option.map_some, Nat.toUInt16_eq,
    UInt16.ofNat_toNat]

/-- Hexadecimal numerals hold neither dots nor colons. -/
private theorem of_mem_hexNumeral {n : Nat} : ∀ c ∈ hexNumeral n, c ≠ '.' ∧ c ≠ ':' :=
  Text.forall_mem_hexNumeral (by decide) n

private theorem toList_piecesText (pieces : List UInt16) :
    (piecesText pieces).toList = Text.joinWith [':'] (pieces.map fun p => hexNumeral p.toNat) := by
  rw [piecesText, Text.join, String.toList_ofList, List.map_map]
  congr 1
  exact List.map_congr_left fun p _ => String.toList_ofList

private theorem ipv6Groups?_map (pieces : List UInt16) :
    ipv6Groups? (pieces.map fun p => hexNumeral p.toNat) = some pieces := by
  induction pieces with
  | nil => rfl
  | cons p pieces ih =>
    cases pieces with
    | nil =>
      have hdot : '.' ∉ hexNumeral p.toNat := fun hm => (of_mem_hexNumeral _ hm).1 rfl
      rw [List.map_singleton, ipv6Groups?, if_neg hdot, ipv6Piece?_hexNumeral]
      rfl
    | cons q pieces =>
      rw [List.map_cons] at ih
      rw [List.map_cons, List.map_cons, ipv6Groups?, ipv6Piece?_hexNumeral, ih]
      · rfl
      · simp

/-- Pieces on one side of a double colon read back. -/
private theorem ipv6Side?_piecesText (pieces : List UInt16) :
    ipv6Side? (piecesText pieces).toList = some pieces := by
  rw [toList_piecesText]
  cases pieces with
  | nil => rfl
  | cons p pieces =>
    have hne : Text.joinWith [':'] ((p :: pieces).map fun p => hexNumeral p.toNat) ≠ [] := by
      rw [List.map_cons, ← List.append_nil (hexNumeral p.toNat), Text.joinWith_append_cons]
      exact List.append_ne_nil_of_left_ne_nil (hexNumeral_ne_nil _) _
    rw [ipv6Side?, if_neg hne, Text.splitOn_joinWith (by simp), ipv6Groups?_map]
    rw [List.forall_mem_map]
    exact fun q _ hm => (of_mem_hexNumeral _ hm).2 rfl

private theorem cutAtDoubleColon_cons {c : Char} {cs : List Char}
    (h : c ≠ ':' ∨ ∀ d ∈ cs.head?, d ≠ ':') :
    cutAtDoubleColon (c :: cs) = (cutAtDoubleColon cs).map fun sides => (c :: sides.1, sides.2) := by
  rw [cutAtDoubleColon]
  rintro rest rfl rfl
  rcases h with h | h
  · exact h rfl
  · exact h ':' rfl rfl

private theorem cutAtDoubleColon_append {group : List Char} (h : ':' ∉ group) (rest : List Char) :
    cutAtDoubleColon (group ++ rest) =
      (cutAtDoubleColon rest).map fun sides => (group ++ sides.1, sides.2) := by
  induction group with
  | nil => exact Option.map_id'.symm
  | cons c group ih =>
    have hc : c ≠ ':' := fun e => h (e ▸ List.mem_cons_self)
    rw [List.cons_append, cutAtDoubleColon_cons (.inl hc),
      ih fun hm => h (List.mem_cons_of_mem _ hm), Option.map_map]
    rfl

/-- A double colon is found behind groups that hold no colon. -/
private theorem cutAtDoubleColon_joinWith {groups : List (List Char)}
    (h : ∀ group ∈ groups, group ≠ [] ∧ ':' ∉ group) (rest : List Char) :
    cutAtDoubleColon (Text.joinWith [':'] groups ++ rest) =
      (cutAtDoubleColon rest).map fun sides =>
        (Text.joinWith [':'] groups ++ sides.1, sides.2) := by
  induction groups with
  | nil => exact Option.map_id'.symm
  | cons group groups ih =>
    rw [List.forall_mem_cons] at h
    cases groups with
    | nil => exact cutAtDoubleColon_append h.1.2 rest
    | cons next groups =>
      obtain ⟨c, cs, hnext⟩ := List.exists_cons_of_ne_nil (h.2 next List.mem_cons_self).1
      have hc : c ≠ ':' := fun e => (h.2 next List.mem_cons_self).2 (by simp [hnext, e])
      have hhead : ∀ d ∈ (Text.joinWith [':'] (next :: groups) ++ rest).head?, d ≠ ':' := by
        rw [hnext, show Text.joinWith [':'] ((c :: cs) :: groups) = _ from
          Text.joinWith_append_cons [':'] [c] cs groups]
        intro d hd
        rwa [← Option.some.inj hd]
      rw [Text.joinWith, List.append_assoc, List.append_assoc, List.singleton_append,
        cutAtDoubleColon_append h.1.2, cutAtDoubleColon_cons (.inr hhead), ih h.2, Option.map_map,
        Option.map_map]
      simp [Function.comp_def]

private theorem cutAtDoubleColon_piecesText (pieces : List UInt16) (rest : List Char) :
    cutAtDoubleColon ((piecesText pieces).toList ++ rest) =
      (cutAtDoubleColon rest).map fun sides => ((piecesText pieces).toList ++ sides.1, sides.2) := by
  rw [toList_piecesText]
  refine cutAtDoubleColon_joinWith ?_ rest
  rw [List.forall_mem_map]
  exact fun p _ => ⟨hexNumeral_ne_nil _, fun hm => (of_mem_hexNumeral _ hm).2 rfl⟩

private theorem forall_mem_piecesText {P : Char → Prop} (hcolon : P ':')
    (hhex : ∀ n < 16, P (lowerHex n)) (pieces : List UInt16) :
    ∀ c ∈ (piecesText pieces).toList, P c := by
  rw [toList_piecesText]
  refine (Text.forall_mem_joinWith_iff (List.forall_mem_singleton.mpr hcolon)).mpr ?_
  rw [List.forall_mem_map]
  exact fun p _ => Text.forall_mem_hexNumeral hhex _

/-- IPv6 addresses are written in hexadecimal digits and colons. -/
theorem forall_mem_ipv6Text {P : Char → Prop} (hcolon : P ':') (hhex : ∀ n < 16, P (lowerHex n))
    (address : Vector UInt16 8) : ∀ c ∈ (ipv6Text address).toList, P c := by
  have hpieces := forall_mem_piecesText hcolon hhex
  have hmark : ∀ c ∈ [':', ':'], P c :=
    List.forall_mem_cons.mpr ⟨hcolon, List.forall_mem_singleton.mpr hcolon⟩
  rw [ipv6Text]
  split
  split
  · exact hpieces _
  · rw [String.toList_append, String.toList_append]
    exact List.forall_mem_append.mpr ⟨List.forall_mem_append.mpr ⟨hpieces _, hmark⟩, hpieces _⟩

/-- The longest run of zeros is one of the pieces, or the run that was known before. -/
private theorem longestZeroRun_eq (i : Nat) (best : Nat × Nat) (pieces : List UInt16) :
    longestZeroRun i best pieces = best ∨
      ∃ k, (longestZeroRun i best pieces).1 = i + k ∧
        (longestZeroRun i best pieces).2 = zeroRun (pieces.drop k) := by
  induction pieces generalizing i best with
  | nil => exact .inl rfl
  | cons p pieces ih =>
    rw [longestZeroRun]
    rcases ih (i + 1) (if best.2 < zeroRun (p :: pieces) then (i, zeroRun (p :: pieces)) else best)
      with h | ⟨k, hstart, hlength⟩
    · rw [h]
      split
      · exact .inr ⟨0, rfl, rfl⟩
      · exact .inl rfl
    · exact .inr ⟨k + 1, by rw [hstart]; omega, hlength⟩

/-- Pieces with the longest run of zeros left out. -/
private theorem eq_append_of_longestZeroRun {pieces : List UInt16} {start length : Nat}
    (h : longestZeroRun 0 (0, 0) pieces = (start, length)) (hlength : 2 ≤ length) :
    pieces = pieces.take start ++ List.replicate length 0 ++ pieces.drop (start + length) := by
  rcases longestZeroRun_eq 0 (0, 0) pieces with hnone | ⟨k, hstart, hrun⟩
  · rw [h] at hnone
    obtain ⟨-, rfl⟩ := Prod.mk.inj hnone
    omega
  · rw [h, Nat.zero_add] at hstart
    rw [h] at hrun
    obtain rfl : start = k := hstart
    obtain rfl : length = zeroRun (pieces.drop start) := hrun
    have hzeros : (pieces.drop start).take (zeroRun (pieces.drop start)) =
        List.replicate (zeroRun (pieces.drop start)) 0 := by
      rw [zeroRun, ← List.prefix_iff_eq_take.mp (List.takeWhile_prefix _)]
      refine List.eq_replicate_of_mem fun p hp => ?_
      have hzero := List.mem_takeWhile_imp hp
      simpa using hzero
    rw [← hzeros, List.append_assoc, ← List.drop_drop, List.take_append_drop,
      List.take_append_drop]

private theorem ipv6OfPieces?_toList (address : Vector UInt16 8) :
    ipv6OfPieces? address.toList = some address := by
  rw [ipv6OfPieces?, dif_pos (by simp)]
  cases address
  rfl

/-- Pieces without a double colon are read as all pieces of an address. -/
private theorem parseIpv6?_piecesText (pieces : List UInt16) :
    parseIpv6? (piecesText pieces).toList = ipv6OfPieces? pieces := by
  have hcut : cutAtDoubleColon (piecesText pieces).toList = none := by
    have hwhole := cutAtDoubleColon_piecesText pieces []
    rwa [List.append_nil] at hwhole
  rw [parseIpv6?, hcut]
  simp only [Option.bind_eq_bind, ipv6Side?_piecesText]
  rfl

/-- A double colon is read as the zeros that the pieces at its sides leave. -/
private theorem parseIpv6?_gap {left right : List UInt16} (h : left.length + right.length ≤ 7) :
    parseIpv6? (piecesText left ++ "::" ++ piecesText right).toList =
      ipv6OfPieces? (left ++ List.replicate (8 - (left.length + right.length)) 0 ++ right) := by
  have hcut : cutAtDoubleColon (piecesText left ++ "::" ++ piecesText right).toList =
      some ((piecesText left).toList, (piecesText right).toList) := by
    rw [String.toList_append, String.toList_append, List.append_assoc, cutAtDoubleColon_piecesText]
    simp [cutAtDoubleColon]
  have hdot : '.' ∉ (piecesText left).toList := fun hm =>
    forall_mem_piecesText (P := (· ≠ '.')) (by decide) (by decide) _ _ hm rfl
  rw [parseIpv6?, hcut]
  simp only [Option.bind_eq_bind, ipv6Side?_piecesText, Option.bind_some, if_neg hdot,
    if_neg (Nat.not_lt.mpr h)]

/-- The text of an IPv6 address is read as the address. -/
private theorem parseIpv6?_ipv6Text (address : Vector UInt16 8) :
    parseIpv6? (ipv6Text address).toList = some address := by
  rw [ipv6Text]
  rcases hlongest : longestZeroRun 0 (0, 0) address.toList with ⟨start, length⟩
  simp only
  split
  · rw [parseIpv6?_piecesText, ipv6OfPieces?_toList]
  · next h =>
    have hcount : address.toList.length = 8 := by simp
    have hpieces := eq_append_of_longestZeroRun hlongest (Nat.le_of_not_lt h)
    have hlengths := congrArg List.length hpieces
    simp only [List.length_append, List.length_replicate, hcount] at hlengths
    have hgap : 8 - ((address.toList.take start).length +
        (address.toList.drop (start + length)).length) = length := by omega
    rw [parseIpv6?_gap (by omega), hgap, ← hpieces, ipv6OfPieces?_toList]

/-- IPv6 addresses read back. -/
theorem parseDomainHost_ipv6 (address : Vector UInt16 8) :
    parseDomainHost ("[" ++ ipv6Text address ++ "]").toList = .ok (.ipv6 address) := by
  have htext : ("[" ++ ipv6Text address ++ "]").toList =
      '[' :: ((ipv6Text address).toList ++ [']']) := by
    rw [String.toList_append, String.toList_append]
    rfl
  have hbracket : bracketed? ('[' :: ((ipv6Text address).toList ++ [']'])) =
      some (.ok (.ipv6 address)) := by
    simp only [bracketed?, List.getLast?_concat, if_true, List.dropLast_concat,
      parseIpv6?_ipv6Text]
  rw [htext, parseDomainHost, hbracket]

/-- Hosts that read back: addresses always do, and so do domain names without Punycode. -/
theorem parseDomainHost_text {host : Host} (h : parseDomainHost cs = .ok host)
    (hcoded : ∀ name, host = .domain name → Idna.isPlain name.toList = false →
      parseDomainHost name.toList = .ok host) :
    parseDomainHost host.text.toList = .ok host := by
  cases host with
  | empty => exact absurd (isServer_of_parseDomainHost h) id
  | domain name =>
    cases hplain : Idna.isPlain name.toList with
    | true => exact parseDomainHost_domain h hplain
    | false => exact hcoded name rfl hplain
  | ipv4 address => exact parseDomainHost_ipv4 address
  | ipv6 address => exact parseDomainHost_ipv6 address

end Url

end SignOn
