import SignOn.Proofs.Idna.Ascii
import SignOn.Proofs.Url.Ascii
import SignOn.Url.Parse

/-!
# URLs are read as ASCII

Whatever text a URL is read from, its components are ASCII: host names are mapped into it and
everything else is escaped. Each reader is shown to keep to that, from the host to the whole URL.
-/

namespace SignOn

open Text (AsciiFrom)

/-- A host that a name in ASCII or an address gives. -/
def Host.IsServer : Host → Prop
  | empty => False
  | domain name => name ≠ "" ∧ Idna.IsNameText name.toList
  | _ => True

/-- Hosts that name a server are ASCII. -/
theorem Host.IsServer.isAscii {host : Host} (h : host.IsServer) : host.IsAscii := by
  cases host with
  | empty => exact trivial
  | domain name => exact h.2.asciiFrom
  | ipv4 address => exact trivial
  | ipv6 pieces => exact trivial

namespace Url

/-! ## Reading hosts and authorities -/

/-- What keeps visible octets only is written in visible ASCII. -/
theorem asciiFrom_encodeText {keeps : UInt8 → Bool}
    (hkeeps : ∀ b, keeps b = true → Percent.isGraphic b = true) (s : String) :
    AsciiFrom 0x21 (Percent.encodeText keeps s).toList :=
  Percent.asciiFrom_encodeText (Nat.le_refl _) fun b _ hb => Percent.isGraphic_iff.mp (hkeeps b hb)

/-- What a path keeps is visible. -/
theorem isGraphic_of_keepsInPath {b : UInt8} (h : keepsInPath b = true) :
    Percent.isGraphic b = true := by
  simp only [keepsInPath, keepsInFragment, Bool.and_eq_true] at h
  exact h.1.1.1.1.1.1.1.1

/-- Brackets hold an IPv6 address. -/
theorem ipv6_of_bracketed? {cs : List Char} {result : Except ParseError Host}
    {host : Host} (h : bracketed? cs = some result) (hok : result = .ok host) :
    ∃ pieces, host = .ipv6 pieces := by
  unfold bracketed? at h
  split at h
  · obtain rfl := Option.some.inj h
    split at hok
    · split at hok
      · exact ⟨_, (Except.ok.inj hok).symm⟩
      · cases hok
    · cases hok
  · cases h

/-- The hosts of special schemes name a server. -/
theorem isServer_of_parseDomainHost {cs : List Char} {host : Host}
    (h : parseDomainHost cs = .ok host) : host.IsServer := by
  unfold parseDomainHost at h
  split at h
  · next hb =>
    obtain ⟨pieces, rfl⟩ := ipv6_of_bracketed? hb h
    exact trivial
  split at h
  · next name hname =>
    obtain ⟨s, -, hs⟩ := Option.bind_eq_some_iff.mp hname
    unfold hostOfDomain at h
    split at h
    · cases h
    next hne =>
    split at h
    · split at h
      · obtain rfl := Except.ok.inj h
        exact trivial
      · cases h
    · obtain rfl := Except.ok.inj h
      refine ⟨fun hempty => hne ?_, ?_⟩
      · rw [← String.toList_ofList (l := name), hempty]
        rfl
      · rw [String.toList_ofList]
        exact Idna.isNameText_toAscii? hs
  · cases h

/-- The hosts of general schemes are ASCII: they hold no blank and everything else is escaped. -/
theorem isAscii_of_parseGeneralHost {cs : List Char} {host : Host}
    (h : parseGeneralHost cs = .ok host) : host.IsAscii := by
  unfold parseGeneralHost at h
  split at h
  · next hb =>
    obtain ⟨pieces, rfl⟩ := ipv6_of_bracketed? hb h
    exact trivial
  split at h
  · cases h
  next hallowed =>
  split at h
  · obtain rfl := Except.ok.inj h
    exact trivial
  · obtain rfl := Except.ok.inj h
    refine Percent.asciiFrom_encodeText (Nat.le_refl _) fun b hb hkeeps => ?_
    simp only [keepsVisible, Bool.and_eq_true, decide_eq_true_eq, UInt8.le_iff_toNat_le,
      UInt8.reduceToNat] at hkeeps
    have hne : b.toNat ≠ 0x20 := by
      intro hblank
      rw [Octets.ofText_ofList] at hb
      obtain ⟨c, hc, hbc⟩ := List.mem_flatMap.mp hb
      have hcn := Octets.eq_of_mem_utf8EncodeChar hbc (UInt8.lt_iff_toNat_lt.mpr (by
        rw [hblank]
        decide))
      have hcb : c = ' ' := Char.toNat_inj.mp (hcn.trans hblank)
      refine hallowed (List.any_eq_true.mpr ⟨c, hc, ?_⟩)
      rw [hcb]
      decide
    omega

/-- Hosts are ASCII. -/
theorem isAscii_of_parseHost {kind : SchemeClass} {cs : List Char} {host : Host}
    (h : parseHost kind cs = .ok host) : host.IsAscii := by
  unfold parseHost at h
  split at h
  · split at h
    · cases h
    · exact (isServer_of_parseDomainHost h).isAscii
  · exact isAscii_of_parseGeneralHost h

/-- The host is read from the text before the port. -/
theorem of_parseHostPort {scheme : String} {cs rest : List Char} {host : Host} {port : Option Nat}
    (h : parseHostPort scheme cs = .ok (host, port, rest)) :
    parseHost (schemeClass scheme) (splitHost false cs).1 = .ok host ∧
      ((∃ portText, (splitHost false cs).2 = ':' :: portText ∧
          parsePort scheme portText = .ok (port, rest)) ∨
        (splitHost false cs).2.head? ≠ some ':' ∧ port = none ∧ rest = (splitHost false cs).2) := by
  unfold parseHostPort at h
  simp only [bind, Except.bind, pure, Except.pure] at h
  split at h
  · cases h
  next found hfound =>
  split at h
  · next portText hport =>
    split at h
    · cases h
    split at h
    · cases h
    next result hresult =>
    obtain ⟨rfl, rfl, rfl⟩ := Except.ok.inj h
    exact ⟨hfound, .inl ⟨portText, hport, hresult⟩⟩
  · next hno =>
    obtain ⟨rfl, rfl, rfl⟩ := Except.ok.inj h
    refine ⟨hfound, .inr ⟨fun hhead => ?_, rfl, rfl⟩⟩
    obtain ⟨portText, hport⟩ := List.head?_eq_some_iff.mp hhead
    exact hno portText hport

/-- What follows the last `@` is a part of the text. -/
private theorem mem_of_cutAtLastAt {cs userinfo hostPort : List Char}
    (h : cutAtLastAt cs = some (userinfo, hostPort)) : ∀ c ∈ hostPort, c ∈ cs := by
  rw [cutAtLastAt] at h
  obtain ⟨⟨after, before⟩, hcut, hsides⟩ := Option.map_eq_some_iff.mp h
  obtain ⟨-, rfl⟩ := Prod.mk.inj hsides
  intro c hc
  rw [← List.mem_reverse, Text.eq_append_of_cutAt hcut]
  exact List.mem_append_left _ (List.mem_reverse.mp hc)

/-- An authority is read from credentials, if there are any, and from a host and a port. -/
theorem of_parseAuthority {scheme : String} {cs rest : List Char} {a : Authority}
    (h : parseAuthority scheme cs = .ok (a, rest)) :
    ((a.username = "" ∧ a.password = "") ∨
        ∃ userinfo, parseCredentials userinfo = (a.username, a.password)) ∧
      ∃ hostPort after,
        (∀ c ∈ hostPort, c ∈ cs.takeWhile (!endsAuthority (schemeClass scheme) ·)) ∧
        parseHostPort scheme hostPort = .ok (a.host, a.port, after) ∧
        rest = after ++ cs.dropWhile (!endsAuthority (schemeClass scheme) ·) := by
  unfold parseAuthority at h
  simp only [bind, Except.bind, pure, Except.pure] at h
  split at h
  · split at h
    · cases h
    next found hfound =>
    obtain ⟨rfl, rfl⟩ := Prod.mk.inj (Except.ok.inj h)
    exact ⟨.inl ⟨rfl, rfl⟩, _, found.2.2, fun _ hc => hc, hfound, rfl⟩
  · next userinfo hostPort hcut =>
    split at h
    · cases h
    split at h
    · cases h
    next found hfound =>
    split at h
    · cases h
    · obtain ⟨rfl, rfl⟩ := Prod.mk.inj (Except.ok.inj h)
      exact ⟨.inr ⟨userinfo, rfl⟩, hostPort, found.2.2, mem_of_cutAtLastAt hcut, hfound, rfl⟩

/-- User names and passwords are written in what they keep and in percent escapes. -/
theorem forall_mem_credentials {P : Char → Prop} {scheme : String} {cs rest : List Char}
    {a : Authority} (h : parseAuthority scheme cs = .ok (a, rest)) (hmark : P '%')
    (hdigit : ∀ n < 16, P (Text.upperHex n))
    (hkeeps : ∀ n < 256, keepsInCredentials n.toUInt8 = true → P (Char.ofNat n)) :
    (∀ c ∈ a.username.toList, P c) ∧ ∀ c ∈ a.password.toList, P c := by
  have hwritten : ∀ s, ∀ c ∈ (Percent.encodeText keepsInCredentials s).toList, P c := by
    intro s
    refine Percent.forall_mem_encodeText hmark hdigit fun b _ hb => ?_
    exact hkeeps b.toNat b.toNat_lt (by rwa [Nat.toUInt8_eq, UInt8.ofNat_toNat])
  have hnone : ∀ c ∈ "".toList, P c := fun _ hc => absurd hc List.not_mem_nil
  rcases (of_parseAuthority h).1 with ⟨husername, hpassword⟩ | ⟨userinfo, hread⟩
  · rw [husername, hpassword]
    exact ⟨hnone, hnone⟩
  · unfold parseCredentials at hread
    split at hread
    · obtain ⟨hu, hp⟩ := Prod.mk.inj hread
      exact ⟨hu ▸ hwritten _, hp ▸ hwritten _⟩
    · obtain ⟨hu, hp⟩ := Prod.mk.inj hread
      exact ⟨hu ▸ hwritten _, hp ▸ hnone⟩

/-- Authorities are ASCII. -/
theorem isAscii_of_parseAuthority {scheme : String} {cs rest : List Char} {a : Authority}
    (h : parseAuthority scheme cs = .ok (a, rest)) : a.IsAscii := by
  obtain ⟨-, hostPort, after, -, hhost, -⟩ := of_parseAuthority h
  obtain ⟨husername, hpassword⟩ := forall_mem_credentials
    (P := fun c => 0x21 ≤ c.toNat ∧ c.toNat ≤ 0x7E) h (by decide) (by decide) (by decide +kernel)
  exact ⟨husername, hpassword, isAscii_of_parseHost (of_parseHostPort hhost).1⟩

/-! ## Reading paths -/

/-- Segments are ASCII. -/
theorem asciiFrom_segmentText (cs : List Char) : AsciiFrom 0x21 (segmentText cs).toList :=
  asciiFrom_encodeText (fun _ => isGraphic_of_keepsInPath) _

/-- Fragments are ASCII. -/
theorem asciiFrom_fragmentText (cs : List Char) : AsciiFrom 0x21 (fragmentText cs).toList :=
  asciiFrom_encodeText (fun b hb => by
    simp only [keepsInFragment, Bool.and_eq_true] at hb
    exact hb.1.1.1.1) _

private theorem asciiFrom_drive {c : Char} (hc : c.isAlpha = true) :
    AsciiFrom 0x21 (String.ofList [c, ':']).toList := by
  rw [String.toList_ofList]
  exact Text.asciiFrom_append.mpr
    ⟨Text.asciiFrom_of_isAlpha hc, Text.asciiFrom_of_all (by decide)⟩

namespace Trail

variable {t : Trail} {kind : SchemeClass}

private theorem asciiSegments_climb (h : AsciiSegments t.segments) :
    AsciiSegments t.climb.segments := by
  unfold climb
  split
  · exact h
  · exact fun s hs => h s (List.dropLast_subset _ hs)

private theorem asciiSegments_concat {segments : List String} (h : AsciiSegments segments)
    {s : String} (hs : AsciiFrom 0x21 s.toList) : AsciiSegments (segments ++ [s]) :=
  List.forall_mem_append.mpr ⟨h, List.forall_mem_singleton.mpr hs⟩

private theorem asciiSegments_stop (h : AsciiSegments t.segments) (last : Bool) :
    AsciiSegments (t.stop last).segments := by
  unfold stop
  split
  · exact asciiSegments_concat h Text.asciiFrom_nil
  · exact h

/-- A segment extends a trail by ASCII. -/
theorem asciiSegments_enter (h : AsciiSegments t.segments) (segment : List Char) (last : Bool) :
    AsciiSegments (t.enter kind segment last).segments := by
  have hdrive : ∀ drive rest, brokenDrive? segment = some (drive, rest) →
      AsciiFrom 0x21 drive.toList := by
    intro drive rest hb
    unfold brokenDrive? at hb
    split at hb
    · split at hb
      · next hc =>
        obtain ⟨rfl, -⟩ := Prod.mk.inj (Option.some.inj hb)
        exact asciiFrom_drive hc.1
      · cases hb
    · cases hb
  unfold enter
  simp only
  split
  · next drive rest hb =>
    split at hb
    · exact List.forall_mem_cons.mpr ⟨hdrive drive rest hb,
        List.forall_mem_singleton.mpr (asciiFrom_segmentText rest)⟩
    · cases hb
  split
  · exact asciiSegments_stop (asciiSegments_climb h) last
  split
  · exact asciiSegments_stop h last
  split
  · next hletter =>
    -- a drive letter is a letter and one more character, in whose place the colon is written
    have hl := hletter.2
    unfold isDriveLetter at hl
    split at hl
    · next c d hcd =>
      rw [Bool.and_eq_true] at hl
      rw [hcd]
      exact List.forall_mem_singleton.mpr (asciiFrom_drive hl.1)
    · cases hl
  · exact asciiSegments_concat h (asciiFrom_segmentText _)

/-- Walking extends a trail by ASCII. -/
theorem asciiSegments_walk (h : AsciiSegments t.segments) (raw : List (List Char)) :
    AsciiSegments (t.walk kind raw).segments := by
  fun_induction walk kind t raw with
  | case1 t => exact h
  | case2 t segment => exact asciiSegments_enter h segment true
  | case3 t segment next rest ih => exact ih (asciiSegments_enter h segment false)

/-- The path at the end of a trail is ASCII if the trail is. -/
theorem asciiSegments_path (h : AsciiSegments t.segments) : AsciiSegments (t.path kind) := by
  unfold path
  split
  · split
    · exact List.forall_mem_singleton.mpr Text.asciiFrom_nil
    · exact fun s hs => h s (List.dropWhile_subset _ hs)
  · exact h

end Trail

variable {kind : SchemeClass} {segments : List String}

private theorem asciiSegments_nil : AsciiSegments [] := fun _ hs => absurd hs List.not_mem_nil

/-- What a text leads to from ASCII is ASCII. -/
theorem asciiSegments_follow (h : AsciiSegments segments) (cs : List Char) :
    AsciiSegments (follow kind segments cs) :=
  Trail.asciiSegments_path (Trail.asciiSegments_walk h _)

private theorem asciiSegments_pathAfterAuthority (cs : List Char) :
    AsciiSegments (pathAfterAuthority kind cs) := by
  unfold pathAfterAuthority
  split
  · exact asciiSegments_nil
  · exact asciiSegments_follow asciiSegments_nil _

private theorem asciiSegments_followDrive {front : List String} (h : AsciiSegments front)
    {drive : String} (hd : AsciiFrom 0x21 drive.toList) (cs : List Char) :
    AsciiSegments (followDrive front drive cs) := by
  have hclosed := Trail.asciiSegments_concat h hd
  unfold followDrive
  apply Trail.asciiSegments_path
  simp only
  split
  · exact hclosed
  · split
    · exact Trail.asciiSegments_walk hclosed _
    split
    · exact Trail.asciiSegments_walk
        (Trail.asciiSegments_stop (t := { segments := front ++ [drive] }) hclosed _) _
    · refine Trail.asciiSegments_walk (Trail.asciiSegments_concat h ?_) _
      rw [String.toList_append, Text.asciiFrom_append]
      exact ⟨hd, asciiFrom_segmentText _⟩

private theorem asciiSegments_followFile (h : AsciiSegments segments) (cs : List Char) :
    AsciiSegments (followFile segments cs) := by
  have hfront : AsciiSegments segments.dropLast := fun s hs => h s (List.dropLast_subset _ hs)
  unfold followFile
  split
  · next last hlast =>
    split
    · exact asciiSegments_follow hfront cs
    split
    · exact asciiSegments_follow h cs
    · exact asciiSegments_followDrive hfront (h last (List.mem_of_getLast? hlast)) cs
  · exact asciiSegments_follow asciiSegments_nil cs

/-! ## Reading URLs -/

variable {scheme : String} {base : Option Url} {cs : List Char} {u : Url}

/-- A URL is ASCII if what it is assembled from is: queries and fragments are escaped. -/
theorem isAscii_assemble (hscheme : AsciiFrom 0x21 scheme.toList) {authority : Option Authority}
    (hauthority : ∀ a ∈ authority, a.IsAscii) {path : List Char → Path}
    (hpath : ∀ front, (path front).IsAscii) (cs : List Char) :
    (assemble scheme authority path cs).IsAscii where
  scheme := hscheme
  authority := hauthority
  path := hpath _
  query := by
    intro query hq
    obtain ⟨raw, -, rfl⟩ := Option.map_eq_some_iff.mp hq
    refine asciiFrom_encodeText (fun b hb => ?_) _
    simp only [keepsInQuery, Bool.and_eq_true] at hb
    exact hb.1.1.1.1.1
  fragment := by
    intro fragment hf
    obtain ⟨raw, -, rfl⟩ := Option.map_eq_some_iff.mp hf
    exact asciiFrom_fragmentText _

private theorem isAscii_assemble_rooted (hscheme : AsciiFrom 0x21 scheme.toList)
    {authority : Option Authority} (hauthority : ∀ a ∈ authority, a.IsAscii)
    {path : List Char → List String} (hpath : ∀ front, AsciiSegments (path front))
    (cs : List Char) : (assemble scheme authority (fun front => .rooted (path front)) cs).IsAscii :=
  isAscii_assemble hscheme hauthority
    (fun front => show (Path.rooted (path front)).IsAscii from hpath front) cs

private theorem forall_mem_none : ∀ a ∈ (none : Option Authority), a.IsAscii :=
  fun _ ha => nomatch ha

private theorem forall_mem_some {a : Authority} (h : a.IsAscii) : ∀ b ∈ some a, b.IsAscii := by
  intro b hb
  rwa [← Option.some.inj hb]

private theorem isAscii_withoutFragment (h : u.IsAscii) : u.withoutFragment.IsAscii :=
  ⟨h.scheme, h.authority, h.path, h.query, fun _ hf => nomatch hf⟩

private theorem isAscii_withFragment (h : u.IsAscii) (cs : List Char) :
    { u with fragment := some (fragmentText cs) : Url }.IsAscii :=
  ⟨h.scheme, h.authority, h.path, h.query, fun _ hf => by
    obtain rfl := Option.some.inj hf
    exact asciiFrom_fragmentText cs⟩

private theorem asciiSegments_segments {path : Path} (h : path.IsAscii) :
    AsciiSegments path.segments := by
  cases path with
  | rooted segments => exact h
  | rootless text => exact asciiSegments_nil

private theorem isAscii_of_parseAfterSlashes (hscheme : AsciiFrom 0x21 scheme.toList)
    (h : parseAfterSlashes scheme cs = .ok u) : u.IsAscii := by
  unfold parseAfterSlashes at h
  simp only [bind, Except.bind, pure, Except.pure] at h
  split at h
  · cases h
  next found hfound =>
  obtain rfl := Except.ok.inj h
  exact isAscii_assemble_rooted hscheme (forall_mem_some (isAscii_of_parseAuthority hfound))
    asciiSegments_pathAfterAuthority _

private theorem isAscii_of_parseGeneral (hscheme : AsciiFrom 0x21 scheme.toList)
    (h : parseGeneral scheme cs = .ok u) : u.IsAscii := by
  unfold parseGeneral at h
  split at h
  · exact isAscii_of_parseAfterSlashes hscheme h
  · obtain rfl := Except.ok.inj h
    exact isAscii_assemble_rooted hscheme forall_mem_none (asciiSegments_follow asciiSegments_nil) _
  · obtain rfl := Except.ok.inj h
    refine isAscii_assemble hscheme forall_mem_none (fun front => ?_) _
    refine Percent.asciiFrom_encodeText (by decide) fun b _ hkeeps => ?_
    simpa [keepsVisible, UInt8.le_iff_toNat_le] using hkeeps

private theorem isAscii_of_parseFileHost {host : Host} (h : parseFileHost cs = .ok host) :
    host.IsAscii := by
  unfold parseFileHost at h
  split at h
  · obtain rfl := Except.ok.inj h
    exact trivial
  · simp only [bind, Except.bind, pure, Except.pure] at h
    split at h
    · cases h
    next found hfound =>
    obtain rfl := Except.ok.inj h
    split
    · exact trivial
    · exact (isServer_of_parseDomainHost hfound).isAscii

private theorem isAscii_noServer : noServer.IsAscii :=
  ⟨Text.asciiFrom_nil, Text.asciiFrom_nil, trivial⟩

private theorem isAscii_baseServer (hbase : ∀ b ∈ base, b.IsAscii) : (baseServer base).IsAscii := by
  unfold baseServer
  cases ha : base.bind (·.authority) with
  | none => exact isAscii_noServer
  | some a =>
    obtain ⟨b, hb, hab⟩ := Option.bind_eq_some_iff.mp ha
    exact (hbase b hb).authority a hab

private theorem asciiSegments_baseDrive (hbase : ∀ b ∈ base, b.IsAscii) :
    AsciiSegments (baseDrive base) := by
  unfold baseDrive
  split
  · have hpath := (hbase _ rfl).path
    split
    · exact List.forall_mem_singleton.mpr (hpath _ List.mem_cons_self)
    · exact asciiSegments_nil
  · exact asciiSegments_nil

/-- The URLs of files are ASCII if their base is. -/
theorem isAscii_of_parseFile (hbase : ∀ b ∈ base, b.IsAscii) (h : parseFile base cs = .ok u) :
    u.IsAscii := by
  have hscheme : AsciiFrom 0x21 "file".toList := Text.asciiFrom_of_all (by decide)
  have hserver := forall_mem_some (isAscii_baseServer hbase)
  have hnone := forall_mem_some isAscii_noServer
  have hfollow : ∀ front, AsciiSegments (follow .file [] front) :=
    asciiSegments_follow asciiSegments_nil
  -- what a text after a single slash leads to
  have hslash : ∀ cs, Url.IsAscii
      (if beginsWithDrive (withoutBreaks cs) then
        assemble "file" (some noServer) (fun text => .rooted (follow .file [] text)) cs
      else if baseDrive base ≠ [] then
        assemble "file" (some noServer)
          (fun text => .rooted (follow .file (baseDrive base) text)) cs
      else
        assemble "file" (some (baseServer base))
          (fun text => .rooted (follow .file [] text)) cs) := by
    intro cs
    split
    · exact isAscii_assemble_rooted hscheme hnone hfollow cs
    split
    · exact isAscii_assemble_rooted hscheme hnone
        (asciiSegments_follow (asciiSegments_baseDrive hbase)) cs
    · exact isAscii_assemble_rooted hscheme hserver hfollow cs
  unfold parseFile at h
  simp only at h
  split at h
  · obtain rfl := Except.ok.inj h
    split
    · next b => exact isAscii_withoutFragment (hbase b rfl)
    · exact isAscii_assemble_rooted hscheme hnone hfollow []
  · next c rest _ =>
    split at h
    · split at h
      · next d after _ =>
        split at h
        · -- after two slashes a host is read
          split at h
          · obtain rfl := Except.ok.inj h
            exact isAscii_assemble_rooted hscheme hnone hfollow _
          · simp only [bind, Except.bind, pure, Except.pure] at h
            split at h
            · cases h
            next host hhost =>
            obtain rfl := Except.ok.inj h
            refine isAscii_assemble_rooted hscheme (forall_mem_some ?_) (fun front => ?_) _
            · split
              · exact isAscii_noServer
              · exact ⟨Text.asciiFrom_nil, Text.asciiFrom_nil, isAscii_of_parseFileHost hhost⟩
            · exact Trail.asciiSegments_path (Trail.asciiSegments_walk asciiSegments_nil _)
        · obtain rfl := Except.ok.inj h
          exact hslash _
      · obtain rfl := Except.ok.inj h
        exact hslash _
    · split at h
      · obtain rfl := Except.ok.inj h
        exact isAscii_assemble_rooted hscheme hnone hfollow _
      · next b =>
        have hb := hbase b rfl
        split at h
        · obtain rfl := Except.ok.inj h
          exact isAscii_assemble hscheme hb.authority (fun _ => hb.path) _
        split at h
        · obtain rfl := Except.ok.inj h
          exact isAscii_withFragment hb _
        split at h
        · obtain rfl := Except.ok.inj h
          exact isAscii_assemble_rooted hscheme hnone hfollow _
        · obtain rfl := Except.ok.inj h
          exact isAscii_assemble_rooted hscheme hserver
            (asciiSegments_followFile (asciiSegments_segments hb.path)) _

private theorem isAscii_of_parseRelative {base : Url} (hbase : base.IsAscii)
    (h : parseRelative base cs = .ok u) : u.IsAscii := by
  have hsegments := asciiSegments_segments hbase.path
  have hfrom : ∀ segments, AsciiSegments segments → ∀ cs, (assemble base.scheme base.authority
      (fun path => .rooted (follow base.kind segments path)) cs).IsAscii := fun segments hs =>
    isAscii_assemble_rooted hbase.scheme hbase.authority (asciiSegments_follow hs)
  unfold parseRelative at h
  simp only at h
  split at h
  · obtain rfl := Except.ok.inj h
    exact isAscii_withoutFragment hbase
  · obtain rfl := Except.ok.inj h
    exact isAscii_assemble hbase.scheme hbase.authority (fun _ => hbase.path) _
  · obtain rfl := Except.ok.inj h
    exact isAscii_withFragment hbase _
  · split at h
    · split at h
      · split at h
        · exact isAscii_of_parseAfterSlashes hbase.scheme h
        split at h
        · exact isAscii_of_parseAfterSlashes hbase.scheme h
        · obtain rfl := Except.ok.inj h
          exact hfrom [] asciiSegments_nil _
      · obtain rfl := Except.ok.inj h
        exact hfrom [] asciiSegments_nil _
    · obtain rfl := Except.ok.inj h
      exact hfrom _ (fun s hs => hsegments s (List.dropLast_subset _ hs)) _

private theorem isAscii_of_parseWithScheme (hbase : ∀ b ∈ base, b.IsAscii)
    (hscheme : AsciiFrom 0x21 scheme.toList) (h : parseWithScheme base scheme cs = .ok u) :
    u.IsAscii := by
  unfold parseWithScheme at h
  simp only at h
  split at h
  · exact isAscii_of_parseGeneral hscheme h
  · refine isAscii_of_parseFile (fun b hb => ?_) h
    exact hbase b (Option.filter_eq_some_iff.mp hb).1
  · split at h
    · next b =>
      split at h
      · exact isAscii_of_parseRelative (hbase b rfl) h
      · exact isAscii_of_parseAfterSlashes hscheme h
    · exact isAscii_of_parseAfterSlashes hscheme h

private theorem isAscii_of_parseWithoutScheme (hbase : ∀ b ∈ base, b.IsAscii)
    (h : parseWithoutScheme base cs = .ok u) : u.IsAscii := by
  unfold parseWithoutScheme at h
  split at h
  · cases h
  · next b =>
    have hb := hbase b rfl
    simp only at h
    split at h
    · obtain rfl := Except.ok.inj h
      exact isAscii_withFragment hb _
    · cases h
    · split at h
      · exact isAscii_of_parseFile hbase h
      · exact isAscii_of_parseRelative hb h

/-- The characters of schemes are visible. -/
theorem visible_of_isSchemeChar {c : Char} (h : isSchemeChar c = true) :
    0x21 ≤ c.toNat ∧ c.toNat ≤ 0x7E := by
  simp only [isSchemeChar, Char.isAlphanum, Bool.or_eq_true, decide_eq_true_eq] at h
  rcases h with (((h | h) | rfl) | rfl) | rfl
  · exact (Text.asciiFrom_cons.mp (Text.asciiFrom_of_isAlpha h)).1
  · exact (Text.asciiFrom_cons.mp (Text.asciiFrom_of_isDigit h)).1
  · decide
  · decide
  · decide

private theorem asciiFrom_of_scheme? (h : scheme? cs = some scheme) :
    AsciiFrom 0x21 scheme.toList := by
  unfold scheme? at h
  split at h
  · split at h
    · obtain rfl := Option.some.inj h
      rw [String.toList_ofList]
      exact AsciiFrom.map_toLower fun c hc =>
        visible_of_isSchemeChar (List.all_eq_true.mp List.all_takeWhile c hc)
    · cases h
  · cases h

/-- What a text stands for at a base is ASCII if the base is. -/
theorem isAscii_of_parseFrom (hbase : ∀ b ∈ base, b.IsAscii) {s : String}
    (h : parseFrom base s = .ok u) : u.IsAscii := by
  unfold parseFrom at h
  simp only at h
  split at h
  · next hs _ => exact isAscii_of_parseWithScheme hbase (asciiFrom_of_scheme? hs) h
  · exact isAscii_of_parseWithoutScheme hbase h

/-- What a text stands for is ASCII. -/
theorem isAscii_of_parse {s : String} (h : parse s = .ok u) : u.IsAscii :=
  isAscii_of_parseFrom (fun _ hb => absurd hb (Option.not_mem_none _)) h

/-- What a text stands for at a URL in ASCII is ASCII. -/
theorem isAscii_of_join {base : Url} (hbase : base.IsAscii) {s : String}
    (h : base.join s = .ok u) : u.IsAscii :=
  isAscii_of_parseFrom (fun b hb => by rwa [← Option.some.inj hb]) h

end Url

end SignOn
