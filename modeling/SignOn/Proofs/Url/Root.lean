import SignOn.Proofs.Url.HostRereading
import SignOn.Proofs.Url.Provenance

/-!
# Servers that read back

The root of a server is its URL without a user and with an empty path (`Url.root`). If the host
reads back, so does the root: the port stands behind the colon that follows the host, it is one of
16 bits and not the usual one, and no mark of the host is taken for one of the URL
(`Url.parse_root_text`).
-/

namespace SignOn

/-- A host that names a server is one. -/
theorem Host.IsServer.ne_empty {host : Host} (h : host.IsServer) : host ≠ .empty := by
  rintro rfl
  exact h

/-- Without a user, an authority is written as a host and a port. -/
theorem Authority.text_withoutCredentials (a : Authority) :
    a.withoutCredentials.text = a.hostPortText := String.empty_append

namespace Url

open Text (AsciiFrom)

variable {scheme : String} {cs rest : List Char} {u v : Url}

/-! ## Hosts and ports -/

/-- What follows a host: nothing, or a port. -/
private theorem splitHost_rest (h : ∀ c ∈ rest.head?, c = ':') : splitHost false rest = ([], rest) := by
  cases rest with
  | nil => rfl
  | cons c rest =>
    obtain rfl : c = ':' := h c rfl
    rfl

/-- A host text that a domain name may have ends at the next colon. -/
private theorem splitHost_of_name (hcs : Idna.IsNameText cs) (hrest : ∀ c ∈ rest.head?, c = ':') :
    splitHost false (cs ++ rest) = (cs, rest) := by
  induction cs with
  | nil => exact splitHost_rest hrest
  | cons c cs ih =>
    obtain ⟨⟨-, hc⟩, hcs⟩ := List.forall_mem_cons.mp hcs
    have hcolon : c ≠ ':' := by
      rintro rfl
      cases hc
    have hbracket : c ≠ '[' := by
      rintro rfl
      cases hc
    rw [List.cons_append, splitHost]
    simp [hcolon, hbracket, ih hcs]

/-- Brackets keep a host text together. -/
private theorem splitHost_of_brackets (hcs : ']' ∉ cs) (hrest : ∀ c ∈ rest.head?, c = ':') :
    splitHost false ('[' :: (cs ++ ']' :: rest)) = ('[' :: (cs ++ [']']), rest) := by
  have hinside : splitHost true (cs ++ ']' :: rest) = (cs ++ [']'], rest) := by
    induction cs with
    | nil => simp [splitHost, splitHost_rest hrest]
    | cons c cs ih =>
      have hc : c ≠ ']' := fun e => hcs (e ▸ List.mem_cons_self)
      rw [List.cons_append, splitHost]
      simp [hc, ih fun hm => hcs (List.mem_cons_of_mem _ hm)]
  rw [splitHost]
  simp [hinside]

/-- The host is cut off where its text ends. -/
private theorem splitHost_text {host : Host} (h : host.IsServer) (hrest : ∀ c ∈ rest.head?, c = ':') :
    splitHost false (host.text.toList ++ rest) = (host.text.toList, rest) := by
  cases host with
  | empty => exact absurd h id
  | domain name => exact splitHost_of_name h.2 hrest
  | ipv4 address => exact splitHost_of_name (isNameText_ipv4Text address).1 hrest
  | ipv6 address =>
    have htext : (Host.ipv6 address).text.toList ++ rest =
        '[' :: ((ipv6Text address).toList ++ ']' :: rest) := by
      change ("[" ++ ipv6Text address ++ "]").toList ++ rest = _
      simp
    have hinside : ']' ∉ (ipv6Text address).toList := fun hm =>
      forall_mem_ipv6Text (P := (· ≠ ']')) (by decide) (by decide) address _ hm rfl
    rw [htext, splitHost_of_brackets hinside hrest]
    change _ = (("[" ++ ipv6Text address ++ "]").toList, rest)
    simp

/-- A port that is written is read. -/
private theorem parsePort_toString {port : Nat} (hbound : port ≤ 65535)
    (hown : defaultPort? scheme ≠ some port) :
    parsePort scheme (toString port).toList = .ok (some port, []) := by
  have hread : ∀ c ∈ (toString port).toList,
      Text.decimalDigit? c = some (c.toNat - '0'.toNat) := fun c hc =>
    decimalDigit?_of_isDigit (Text.isDigit_of_mem_toString hc)
  have hdigits : ∀ c ∈ (toString port).toList, (Text.decimalDigit? c).isSome = true := by
    intro c hc
    rw [hread c hc]
    rfl
  have hvalue : (toString port).toList.foldl
      (fun n c => n * 10 + (Text.decimalDigit? c).getD 0) 0 = port := by
    calc (toString port).toList.foldl (fun n c => n * 10 + (Text.decimalDigit? c).getD 0) 0
      _ = Nat.ofDigitChars 10 (toString port).toList 0 := by
        refine List.foldl_ext _ _ _ fun n c hc => ?_
        rw [hread c hc, Option.getD_some, Nat.mul_comm]
      _ = port := by
        change Nat.ofDigitChars 10 port.repr.toList 0 = port
        rw [Nat.toList_repr, Nat.ofDigitChars_ten_toDigits]
  rw [parsePort, List.takeWhile_eq_self_iff.mpr hdigits, List.dropWhile_eq_nil_iff.mpr hdigits]
  simp only [hvalue, if_neg (Nat.not_lt.mpr hbound), toList_toString_ne_nil, hown, or_self, if_false]
  rfl

/-- A port that is read is one of 16 bits. -/
private theorem le_of_parsePort {port : Option Nat} (h : parsePort scheme cs = .ok (port, rest)) :
    ∀ p ∈ port, p ≤ 65535 := by
  unfold parsePort at h
  simp only at h
  split at h
  · cases h
  next hbound =>
  split at h
  · cases h
  obtain ⟨rfl, -⟩ := Prod.mk.inj (Except.ok.inj h)
  intro p hp
  split at hp
  · cases hp
  · rw [← Option.some.inj hp]
    exact Nat.le_of_not_lt hbound

/-- A host and a port that read back do so together. -/
private theorem parseHostPort_text {a : Authority} (hk : schemeClass scheme = .network)
    (hserver : a.host.IsServer) (hhost : parseDomainHost a.host.text.toList = .ok a.host)
    (hport : ∀ p ∈ a.port, p ≤ 65535 ∧ defaultPort? scheme ≠ some p) :
    parseHostPort scheme a.hostPortText.toList = .ok (a.host, a.port, []) := by
  have hread : parseHost (schemeClass scheme) a.host.text.toList = .ok a.host := by
    rw [hk, parseHost]
    simp only [SchemeClass.isSpecial, if_true, if_neg hserver.text_ne_nil, hhost]
  rw [Authority.hostPortText, String.toList_append, parseHostPort, Authority.portText]
  cases hp : a.port with
  | none =>
    have hsplit : splitHost false (a.host.text.toList ++ []) = (a.host.text.toList, []) :=
      splitHost_text hserver (by simp)
    simp only [String.toList_empty, hsplit, hread]
    rfl
  | some port =>
    obtain ⟨hbound, hown⟩ := hport port hp
    have htext : (":" ++ toString port).toList = ':' :: (toString port).toList := by
      rw [String.toList_append]
      rfl
    have hsplit : splitHost false (a.host.text.toList ++ ':' :: (toString port).toList) =
        (a.host.text.toList, ':' :: (toString port).toList) :=
      splitHost_text hserver fun c hc => (Option.some.inj hc).symm
    simp only [htext, hsplit, hread, bind, Except.bind, if_neg hserver.ne_empty,
      parsePort_toString hbound hown]
    rfl

/-- No host and no port holds an `@`. -/
private theorem at_not_mem_hostPortText {a : Authority} (hserver : a.host.IsServer) :
    '@' ∉ a.hostPortText.toList := by
  have hhost : ∀ c ∈ a.host.text.toList, c ≠ '@' := by
    refine Host.forall_mem_text (fun name hname c hc => ?_) ?_ ?_ (by decide)
    · rw [hname] at hserver
      rintro rfl
      cases (hserver.2 _ hc).2
    · rintro c hmark rfl
      exact absurd hmark (by decide)
    · rintro c hdigit rfl
      cases hdigit
  rw [Authority.hostPortText, String.toList_append, List.mem_append]
  rintro (hm | hm)
  · exact hhost _ hm rfl
  · rw [Authority.portText] at hm
    split at hm
    · rw [String.toList_append, List.mem_append] at hm
      rcases hm with hm | hm
      · cases List.mem_singleton.mp hm
      · cases Text.isDigit_of_mem_toString hm
    · cases hm

/-- An authority without credentials reads back before a path. -/
private theorem parseAuthority_text {a : Authority} (hk : schemeClass scheme = .network)
    (hserver : a.host.IsServer) (hhost : parseDomainHost a.host.text.toList = .ok a.host)
    (hport : ∀ p ∈ a.port, p ≤ 65535 ∧ defaultPort? scheme ≠ some p) :
    parseAuthority scheme (a.withoutCredentials.text.toList ++ '/' :: cs) =
      .ok (a.withoutCredentials, '/' :: cs) := by
  have hnobody : ∀ c ∈ "".toList, endsAuthority .network c = false := fun _ hc => nomatch hc
  have hcut := cut_of_isServer (a := a.withoutCredentials) ⟨hnobody, hnobody, hserver⟩ cs
  have hat : cutAtLastAt a.hostPortText.toList = none := by
    rw [cutAtLastAt, Text.cutAt_eq_none_iff.mpr fun hm =>
      at_not_mem_hostPortText hserver (List.mem_reverse.mp hm)]
    rfl
  rw [a.text_withoutCredentials] at hcut ⊢
  unfold parseAuthority
  simp only [hk, hcut.1, hcut.2, hat, parseHostPort_text hk hserver hhost hport]
  rfl

/-- The root of the server of a URL, for nobody in particular. -/
def root (u : Url) : Url where
  scheme := u.scheme
  authority := u.authority.map Authority.withoutCredentials
  path := .rooted [""]

theorem authority_root {a : Authority} (ha : u.authority = some a) :
    u.root.authority = some a.withoutCredentials := by
  rw [root, ha]
  rfl

/-- The server of a URL has been read as a host and a port. -/
private theorem IsRead.parseHostPort {a : Authority} (h : u.IsRead) (hk : u.kind = .network)
    (ha : u.authority = some a) :
    ∃ cs rest, Url.parseHostPort u.scheme cs = .ok (a.host, a.port, rest) := by
  obtain ⟨b, cs, rest, hb, hread⟩ := h.authority hk
  obtain rfl : b = a := Option.some.inj (hb.symm.trans ha)
  obtain ⟨-, hostPort, after, -, hhostPort, -⟩ := of_parseAuthority hread
  exact ⟨hostPort, after, hhostPort⟩

/-- The port of a URL is one of 16 bits. -/
private theorem IsRead.port_le {a : Authority} (h : u.IsRead) (hk : u.kind = .network)
    (ha : u.authority = some a) : ∀ p ∈ a.port, p ≤ 65535 := by
  obtain ⟨cs, rest, hread⟩ := h.parseHostPort hk ha
  rcases (of_parseHostPort hread).2 with ⟨portText, -, hport⟩ | ⟨-, hnone, -⟩
  · exact le_of_parsePort hport
  · rw [hnone]
    exact fun _ hp => nomatch hp

private theorem not_mem_segments {segment : String} (hs : segment ∈ [""]) :
    ∀ c, c ∉ segment.toList := by
  rw [List.mem_singleton.mp hs]
  exact fun _ hc => nomatch hc

private theorem isNetwork_root {a : Authority} (hk : u.kind = .network)
    (ha : u.authority = some a) (hserver : a.host.IsServer) : u.root.IsNetwork where
  kind := hk
  server := by
    have hnobody : ∀ c ∈ "".toList, endsAuthority .network c = false := fun _ hc => nomatch hc
    exact ⟨a.withoutCredentials, authority_root ha, hnobody, hnobody, hserver⟩
  path := ⟨[""], rfl, List.cons_ne_nil _ _, fun _ hs c hc => absurd hc (not_mem_segments hs c)⟩

private theorem isAscii_root {a : Authority} (hscheme : AsciiFrom 0x21 u.scheme.toList)
    (ha : u.authority = some a) (hserver : a.host.IsServer) : u.root.IsAscii where
  scheme := hscheme
  authority := by
    rw [authority_root ha]
    rintro b ⟨⟩
    exact ⟨Text.asciiFrom_nil, Text.asciiFrom_nil, hserver.isAscii⟩
  path _ hs c hc := absurd hc (not_mem_segments hs c)
  query _ hq := nomatch hq
  fragment _ hf := nomatch hf

/-- The root of a server reads back if its host does. -/
theorem parse_root_text {a : Authority} (h : u.IsRead) (hk : u.kind = .network)
    (ha : u.authority = some a) (hhost : parseDomainHost a.host.text.toList = .ok a.host) :
    parse u.root.text = .ok u.root := by
  have hserver := isServer_of_parseDomainHost hhost
  have hport : ∀ p ∈ a.port, p ≤ 65535 ∧ defaultPort? u.scheme ≠ some p := by
    intro p hp
    refine ⟨h.port_le hk ha p hp, h.hasOwnPort hk p ?_⟩
    rw [port?, ha]
    exact hp
  obtain ⟨b, hb, -, htext⟩ :=
    parse_text (isNetwork_root hk ha hserver) (isAscii_root h.isAscii.scheme ha hserver)
  obtain rfl : b = a.withoutCredentials := Option.some.inj (hb.symm.trans (authority_root ha))
  have hpath : u.root.path.text.toList ++ u.root.tailText.toList = ['/'] := by
    simp [root, tailText, Path.text]
  have hroot : assemble u.scheme (some a.withoutCredentials)
      (fun path => .rooted (pathAfterAuthority (schemeClass u.scheme) path)) ['/'] = u.root := by
    rw [show schemeClass u.scheme = .network from hk, root, ha]
    rfl
  have hread : parseAuthority u.root.scheme (a.withoutCredentials.text.toList ++ ['/']) =
      .ok (a.withoutCredentials, ['/']) := parseAuthority_text hk hserver hhost hport
  rw [htext, hpath, parseAfterSlashes, hread]
  exact congrArg Except.ok hroot

/-- The root of a server belongs to the server. -/
theorem sharesOrigin_root (u : Url) : u.root.SharesOrigin u := by
  refine ⟨rfl, ?_, ?_⟩
  · rw [root, Option.map_map]
    rfl
  · rw [effectivePort?, effectivePort?, port?, port?, root]
    cases u.authority <;> rfl

/-- The domain name of a URL that holds Punycode is read back as itself. Nothing is said of other
hosts: those of URLs always read back. -/
def CodedNameRereads (u : Url) : Prop :=
  ∀ name, u.authority.map (·.host) = some (.domain name) → Idna.isPlain name.toList = false →
    parseDomainHost name.toList = .ok (.domain name)

/-- The host of a URL of a network scheme reads back. -/
theorem IsRead.parseDomainHost_text {a : Authority} (h : u.IsRead) (hk : u.kind = .network)
    (ha : u.authority = some a) (hcoded : u.CodedNameRereads) :
    parseDomainHost a.host.text.toList = .ok a.host := by
  obtain ⟨cs, rest, hread⟩ := h.parseHostPort hk ha
  have hhost := (of_parseHostPort hread).1
  rw [show schemeClass u.scheme = .network from hk, parseHost] at hhost
  simp only [SchemeClass.isSpecial, if_true] at hhost
  split at hhost
  · cases hhost
  · refine Url.parseDomainHost_text hhost fun name hname hplain => ?_
    rw [hname]
    exact hcoded name (by rw [ha, Option.map_some, hname]) hplain

end Url

end SignOn
