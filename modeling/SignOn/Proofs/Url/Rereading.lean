import Mathlib.Data.List.TakeWhile
import SignOn.Proofs.Url.Network

/-!
# Reading URLs again

A path that reading gives holds only characters that reading keeps, so reading it again changes
nothing but its dot segments, and never makes it longer. The same goes for a whole URL of a network
scheme: its authority ends where its path begins, so its text is cut there again.
-/

namespace SignOn

open Text (AsciiFrom)

namespace Url

/-! ## Characters of paths -/

/-- Whether a character stays as it is in the path of a special scheme. -/
def IsPathChar (c : Char) : Prop :=
  c.toNat < 0x80 ∧ keepsInPath c.toNat.toUInt8 = true ∧ c ≠ '\\'

instance (c : Char) : Decidable (IsPathChar c) := inferInstanceAs (Decidable (_ ∧ _))

/-- A test of all ASCII characters at once. -/
private theorem forall_isPathChar {P : Char → Prop}
    (h : ∀ n < 0x80, IsPathChar (Char.ofNat n) → P (Char.ofNat n)) (c : Char)
    (hc : IsPathChar c) : P c := by
  have hall : ∀ c : Char, c.toNat < 0x80 → IsPathChar c → P c := Text.forall_ascii h
  exact hall c hc.1 hc

/-- A test of all characters at once. -/
theorem isPathChar_of_all {cs : List Char} (h : cs.all (IsPathChar ·) = true) :
    ∀ c ∈ cs, IsPathChar c := by
  intro c hc
  simpa using List.all_eq_true.mp h c hc

/-- Such characters are visible and neither end a path nor an authority but for the slash. -/
theorem IsPathChar.facts {c : Char} (h : IsPathChar c) :
    (0x21 ≤ c.toNat ∧ c.toNat ≤ 0x7E) ∧ c ≠ '?' ∧ c ≠ '#' ∧ isBreak c = false := by
  revert h
  exact forall_isPathChar (P := fun c => (0x21 ≤ c.toNat ∧ c.toNat ≤ 0x7E) ∧ c ≠ '?' ∧ c ≠ '#' ∧
    isBreak c = false) (by decide) c

/-- A text of path characters that does not begin with a slash begins with none at all. -/
theorem head?_any_isAnySlash {cs : List Char} (h : ∀ c ∈ cs, IsPathChar c)
    (hhead : cs.head? ≠ some '/') : cs.head?.any isAnySlash = false := by
  cases cs with
  | nil => rfl
  | cons d rest =>
    have hd : d ≠ '/' := fun hd => hhead (hd ▸ rfl)
    simp [isAnySlash, hd, (h d List.mem_cons_self).2.2]

/-- Texts of path characters are visible. -/
theorem asciiFrom_of_isPathChar {cs : List Char} (h : ∀ c ∈ cs, IsPathChar c) :
    AsciiFrom 0x21 cs := fun c hc => (h c hc).facts.1

/-- What stays as it is in a path is written as it is. -/
theorem segmentText_of_isPathChar {segment : List Char} (h : ∀ c ∈ segment, IsPathChar c) :
    segmentText segment = String.ofList segment :=
  Percent.encodeText_of_keeps fun c hc => ⟨(h c hc).1, (h c hc).2.1⟩

/-- What is written in a path stays as it is. -/
theorem isPathChar_segmentText {segment : List Char} (h : ∀ c ∈ segment, c ≠ '/' ∧ c ≠ '\\') :
    ∀ c ∈ (segmentText segment).toList, IsPathChar c ∧ c ≠ '/' := by
  refine Percent.forall_mem_encodeText (by decide) (by decide) fun b hb hkeeps => ?_
  have hlow : b.toNat < 0x80 := by
    have := Percent.isGraphic_iff.mp (isGraphic_of_keepsInPath hkeeps)
    omega
  -- a kept octet is a character of the segment
  rw [Octets.ofText_ofList] at hb
  obtain ⟨c, hc, hbc⟩ := List.mem_flatMap.mp hb
  have hcn := Octets.eq_of_mem_utf8EncodeChar hbc (UInt8.lt_iff_toNat_lt.mpr hlow)
  have hkeeps' : keepsInPath c.toNat.toUInt8 = true := by
    rwa [hcn, Nat.toUInt8_eq, UInt8.ofNat_toNat]
  rw [← hcn, Char.ofNat_toNat]
  exact ⟨⟨hcn ▸ hlow, hkeeps', (h c hc).2⟩, (h c hc).1⟩

/-! ## Paths -/

/-- Whether a segment is one that stays in place or goes up. -/
def isDots (segment : List Char) : Bool := isSingleDot segment || isDoubleDot segment

/-- The characters of a path of segments. -/
def pathChars (segments : List String) : List Char :=
  segments.flatMap fun segment => '/' :: segment.toList

/-- Segments that hold only characters which stay as they are. -/
def KeptSegments (segments : List String) : Prop :=
  ∀ s ∈ segments, ∀ c ∈ s.toList, IsPathChar c ∧ c ≠ '/'

theorem toList_text_rooted (segments : List String) :
    (Path.rooted segments).text.toList = pathChars segments := String.toList_ofList

@[simp] theorem pathChars_nil : pathChars [] = [] := rfl

@[simp] theorem pathChars_append (a b : List String) :
    pathChars (a ++ b) = pathChars a ++ pathChars b := List.flatMap_append

@[simp] theorem pathChars_singleton (s : String) : pathChars [s] = '/' :: s.toList := by
  simp [pathChars]

/-- Kept segments are written in path characters. -/
theorem KeptSegments.isPathChar {segments : List String} (h : KeptSegments segments) :
    ∀ c ∈ pathChars segments, IsPathChar c := by
  intro c hc
  obtain ⟨s, hs, hc⟩ := List.mem_flatMap.mp hc
  rcases List.mem_cons.mp hc with rfl | hc
  · decide
  · exact (h s hs c hc).1

/-- The pieces between the slashes of a network path hold neither slashes nor backslashes. -/
theorem of_mem_rawSegments {cs segment : List Char} (h : segment ∈ rawSegments .network cs) :
    ∀ c ∈ segment, c ≠ '/' ∧ c ≠ '\\' := by
  intro c hc
  obtain ⟨hslash, hmem⟩ := Text.of_mem_splitOn h c hc
  refine ⟨hslash, ?_⟩
  rintro rfl
  obtain ⟨d, -, hd⟩ := List.mem_map.mp hmem
  split at hd
  · cases hd
  · next hkept =>
    subst hd
    exact hkept (by decide)

/-- A text without backslashes is cut at its slashes. -/
theorem rawSegments_of_isPathChar {cs : List Char} (h : ∀ c ∈ cs, IsPathChar c) :
    rawSegments .network cs = Text.splitOn '/' cs := by
  have hsame : cs.map (fun c => if isSlash .network c then '/' else c) = cs.map id := by
    refine List.map_congr_left fun c hc => ?_
    split
    · next hslash =>
      simp only [isSlash, SchemeClass.isSpecial, Bool.true_and, Bool.or_eq_true,
        decide_eq_true_eq] at hslash
      exact (hslash.resolve_right (h c hc).2.2).symm
    · rfl
  rw [rawSegments, hsame, List.map_id]

namespace Trail

variable {t : Trail} {segment : List Char}

/-- In a network path nothing but dot segments is special. -/
theorem segments_enter (t : Trail) (segment : List Char) (last : Bool) :
    (t.enter .network segment last).segments =
      if isDoubleDot (withoutBreaks segment) then (t.climb.stop last).segments
      else if isSingleDot (withoutBreaks segment) then (t.stop last).segments
      else t.segments ++ [segmentText (withoutBreaks segment)] := by
  simp only [enter, reduceCtorEq, false_and, if_false]
  split
  · rfl
  split
  · rfl
  · rfl

private theorem kept_climb (h : KeptSegments t.segments) : KeptSegments t.climb.segments := by
  unfold climb
  split
  · exact h
  · exact fun s hs => h s (List.dropLast_subset _ hs)

private theorem kept_stop (h : KeptSegments t.segments) (last : Bool) :
    KeptSegments (t.stop last).segments := by
  unfold stop
  split
  · exact List.forall_mem_append.mpr
      ⟨h, List.forall_mem_singleton.mpr fun _ hc => absurd hc List.not_mem_nil⟩
  · exact h

/-- A segment of a text extends a trail by what stays as it is. -/
theorem kept_enter (h : KeptSegments t.segments) (hs : ∀ c ∈ segment, c ≠ '/' ∧ c ≠ '\\')
    (last : Bool) : KeptSegments (t.enter .network segment last).segments := by
  rw [segments_enter]
  split
  · exact kept_stop (kept_climb h) last
  split
  · exact kept_stop h last
  · exact List.forall_mem_append.mpr ⟨h, List.forall_mem_singleton.mpr
      (isPathChar_segmentText fun c hc => hs c (List.mem_of_mem_filter hc))⟩

/-- So does a whole text. -/
theorem kept_walk (h : KeptSegments t.segments) {raw : List (List Char)}
    (hraw : ∀ segment ∈ raw, ∀ c ∈ segment, c ≠ '/' ∧ c ≠ '\\') :
    KeptSegments (t.walk .network raw).segments := by
  fun_induction walk SchemeClass.network t raw with
  | case1 t => exact h
  | case2 t segment => exact kept_enter h (hraw segment List.mem_cons_self) true
  | case3 t segment next rest ih =>
    exact ih (kept_enter h (hraw segment List.mem_cons_self) false)
      fun s hs => hraw s (List.mem_cons_of_mem _ hs)

/-- The last segment of a text leaves a segment. -/
theorem segments_walk_ne_nil (t : Trail) {raw : List (List Char)} (hraw : raw ≠ []) :
    (t.walk .network raw).segments ≠ [] := by
  fun_induction walk SchemeClass.network t raw with
  | case1 t => exact absurd rfl hraw
  | case2 t segment =>
    rw [segments_enter]
    simp only [stop, if_true]
    split
    · simp
    split
    · simp
    · simp
  | case3 t segment next rest ih => exact ih (List.cons_ne_nil _ _)

/-- What stays as it is and is no dot segment is appended as it is. -/
theorem segments_enter_of_kept (hs : ∀ c ∈ segment, IsPathChar c) (hdots : isDots segment = false)
    (t : Trail) (last : Bool) :
    (t.enter .network segment last).segments = t.segments ++ [String.ofList segment] := by
  rw [isDots, Bool.or_eq_false_iff] at hdots
  rw [segments_enter, withoutBreaks_of_visible (asciiFrom_of_isPathChar hs), hdots.1, hdots.2,
    segmentText_of_isPathChar hs]
  rfl

/-- A text that stays as it is and has no dot segments is appended as it is. -/
theorem pathChars_walk_of_kept {raw : List (List Char)}
    (hraw : ∀ segment ∈ raw, (∀ c ∈ segment, IsPathChar c) ∧ isDots segment = false) (t : Trail) :
    pathChars (t.walk .network raw).segments =
      pathChars t.segments ++ raw.flatMap ('/' :: ·) := by
  fun_induction walk SchemeClass.network t raw with
  | case1 t => simp
  | case2 t segment =>
    obtain ⟨hs, hdots⟩ := hraw segment List.mem_cons_self
    rw [segments_enter_of_kept hs hdots]
    simp
  | case3 t segment next rest ih =>
    obtain ⟨hs, hdots⟩ := hraw segment List.mem_cons_self
    rw [ih fun s hs => hraw s (List.mem_cons_of_mem _ hs), segments_enter_of_kept hs hdots]
    simp

private theorem length_climb_le (t : Trail) :
    (pathChars t.climb.segments).length ≤ (pathChars t.segments).length := by
  unfold climb
  split
  · exact Nat.le_refl _
  · rcases List.eq_nil_or_concat t.segments with hnil | ⟨front, last, hconcat⟩
    · simp [hnil]
    · simp [hconcat]

private theorem length_stop_le (t : Trail) (last : Bool) :
    (pathChars (t.stop last).segments).length ≤ (pathChars t.segments).length + 1 := by
  unfold stop
  split
  · simp
  · exact Nat.le_succ _

/-- A segment that stays as it is extends a trail by at most its length, a dot segment by less. -/
theorem length_enter_le (hs : ∀ c ∈ segment, IsPathChar c) (t : Trail) (last : Bool) :
    (pathChars (t.enter .network segment last).segments).length +
        (if isDots segment then 1 else 0) ≤
      (pathChars t.segments).length + (segment.length + 1) := by
  cases hdots : isDots segment with
  | false =>
    rw [segments_enter_of_kept hs hdots]
    simp
  | true =>
    have hne : segment ≠ [] := by
      rintro rfl
      revert hdots
      decide
    have hpos := List.length_pos_iff.mpr hne
    have hclimb := length_climb_le t
    have hstop := length_stop_le t last
    have hstop' := length_stop_le t.climb last
    rw [segments_enter, withoutBreaks_of_visible (asciiFrom_of_isPathChar hs), if_pos rfl]
    split
    · omega
    · next hdouble =>
      have hsingle : isSingleDot segment = true := by
        rw [isDots, Bool.or_eq_true] at hdots
        exact hdots.resolve_right hdouble
      rw [if_pos hsingle]
      omega

/-- A text that stays as it is gives a path that is no longer, by one less for each dot segment. -/
theorem length_walk_le {raw : List (List Char)} (hraw : ∀ segment ∈ raw, ∀ c ∈ segment, IsPathChar c)
    (t : Trail) :
    (pathChars (t.walk .network raw).segments).length + raw.countP (isDots ·) ≤
      (pathChars t.segments).length + (raw.flatMap ('/' :: ·)).length := by
  fun_induction walk SchemeClass.network t raw with
  | case1 t => simp
  | case2 t segment =>
    have henter := length_enter_le (hraw segment List.mem_cons_self) t true
    simpa [List.countP_cons] using henter
  | case3 t segment next rest ih =>
    have henter := length_enter_le (hraw segment List.mem_cons_self) t false
    have hrest := ih fun s hs => hraw s (List.mem_cons_of_mem _ hs)
    rw [List.countP_cons, List.flatMap_cons, List.length_append, List.length_cons]
    omega

end Trail

/-- A path text that stays as it is gives a path of at most its length, and less if a segment of it
is one of dots. -/
theorem length_follow_le {cs : List Char} (h : ∀ c ∈ cs, IsPathChar c) :
    (pathChars (follow .network [] cs)).length + (Text.splitOn '/' cs).countP (isDots ·) ≤
      cs.length + 1 := by
  have hraw : ∀ segment ∈ Text.splitOn '/' cs, ∀ c ∈ segment, IsPathChar c :=
    fun segment hs c hc => h c (Text.of_mem_splitOn hs c hc).2
  have hwalk := Trail.length_walk_le hraw {}
  rw [Text.flatMap_splitOn, pathChars_nil, List.length_nil, Nat.zero_add, List.length_cons] at hwalk
  rw [follow, rawSegments_of_isPathChar h]
  exact hwalk

/-- A path text that stays as it is and has no dot segments is the path that it gives. -/
theorem pathChars_follow {cs : List Char} (h : ∀ c ∈ cs, IsPathChar c)
    (hdots : ∀ segment ∈ Text.splitOn '/' cs, isDots segment = false) :
    pathChars (follow .network [] cs) = '/' :: cs := by
  have hraw : ∀ segment ∈ Text.splitOn '/' cs,
      (∀ c ∈ segment, IsPathChar c) ∧ isDots segment = false :=
    fun segment hs => ⟨fun c hc => h c (Text.of_mem_splitOn hs c hc).2, hdots segment hs⟩
  have hwalk := Trail.pathChars_walk_of_kept hraw {}
  rw [Text.flatMap_splitOn, pathChars_nil, List.nil_append] at hwalk
  rw [follow, rawSegments_of_isPathChar h]
  exact hwalk

/-- What a text leads to stays as it is. -/
theorem kept_follow {segments : List String} (h : KeptSegments segments) (cs : List Char) :
    KeptSegments (follow .network segments cs) ∧ follow .network segments cs ≠ [] :=
  ⟨Trail.kept_walk (t := { segments }) h fun _ hs => of_mem_rawSegments hs,
    Trail.segments_walk_ne_nil _ (Text.splitOn_ne_nil _ _)⟩

/-! ## Authorities -/

/-- The host text stands before what follows it, which is nothing or begins with a colon. -/
private theorem splitHost_spec (inBrackets : Bool) (cs : List Char) :
    (splitHost inBrackets cs).1 ++ (splitHost inBrackets cs).2 = cs ∧
      ∀ c ∈ (splitHost inBrackets cs).2.head?, c = ':' := by
  induction cs generalizing inBrackets with
  | nil => exact ⟨rfl, fun _ hc => nomatch hc⟩
  | cons c cs ih =>
    rw [splitHost]
    split
    · next hc =>
      refine ⟨rfl, fun d hd => ?_⟩
      rw [← Option.some.inj hd]
      exact hc.1
    · have hrest := ih (if c = '[' then true else if c = ']' then false else inBrackets)
      exact ⟨congrArg (c :: ·) hrest.1, hrest.2⟩

/-- Nothing is left after a port but what begins with a backslash. -/
private theorem rest_of_parsePort {scheme : String} {cs rest : List Char} {port : Option Nat}
    (h : parsePort scheme cs = .ok (port, rest)) (hcs : '\\' ∉ cs) : rest = [] := by
  unfold parsePort at h
  simp only at h
  split at h
  · cases h
  split at h
  · cases h
  next hall =>
  obtain ⟨-, rfl⟩ := Prod.mk.inj (Except.ok.inj h)
  cases hrest : cs.dropWhile fun c => (Text.decimalDigit? c).isSome with
  | nil => rfl
  | cons d rest =>
    rw [hrest] at hall
    have hd : d = '\\' := by simpa using hall
    exact absurd (List.dropWhile_subset _ (hrest ▸ List.mem_cons_self)) (hd ▸ hcs)

/-- An authority without backslashes is read to its end. -/
theorem rest_of_parseHostPort {scheme : String} {cs rest : List Char} {host : Host}
    {port : Option Nat} (h : parseHostPort scheme cs = .ok (host, port, rest))
    (hcs : '\\' ∉ cs) : rest = [] := by
  have hsplit := splitHost_spec false cs
  rcases (of_parseHostPort h).2 with ⟨portText, hport, hread⟩ | ⟨hhead, -, rfl⟩
  · refine rest_of_parsePort hread fun hmem => hcs ?_
    rw [← hsplit.1, hport]
    exact List.mem_append_right _ (List.mem_cons_of_mem _ hmem)
  · cases hrest : (splitHost false cs).2 with
    | nil => rfl
    | cons d rest =>
      rw [hrest] at hhead hsplit
      exact absurd (congrArg some (hsplit.2 d rfl)) hhead

end Url

/-- An authority that names a server and whose credentials are written so that they end none. -/
structure Authority.IsServer (a : Authority) : Prop where
  username : ∀ c ∈ a.username.toList, Url.endsAuthority .network c = false
  password : ∀ c ∈ a.password.toList, Url.endsAuthority .network c = false
  host : a.host.IsServer

/-- Hosts that name a server are not empty. -/
theorem Host.IsServer.text_ne_nil {host : Host} (h : host.IsServer) : host.text.toList ≠ [] := by
  cases host with
  | empty => exact absurd h id
  | domain name => exact fun hnil => h.1 (String.toList_eq_nil_iff.mp hnil)
  | ipv4 address =>
    change (ipv4Text address).toList ≠ []
    rw [ipv4Text, Text.join, String.toList_ofList]
    simp [Text.joinWith]
  | ipv6 pieces =>
    change ("[" ++ ipv6Text pieces ++ "]").toList ≠ []
    simp

/-- The text of such an authority has no end in it, and it is not empty. -/
theorem Authority.IsServer.text {a : Authority} (h : a.IsServer) :
    (∀ c ∈ a.text.toList, Url.endsAuthority .network c = false) ∧ a.text.toList ≠ [] := by
  have hascii : ∀ c : Char, c.toNat < 0x80 → c.isDigit = true →
      Url.endsAuthority .network c = false := Text.forall_ascii (by decide)
  have hdigit : ∀ c : Char, c.isDigit = true → Url.endsAuthority .network c = false := by
    intro c hc
    have hvisible := (Text.asciiFrom_cons.mp (Text.asciiFrom_of_isDigit hc)).1
    exact hascii c (by omega) hc
  have hmarks : ∀ s : String, s.toList.all (!Url.endsAuthority .network ·) = true →
      ∀ c ∈ s.toList, Url.endsAuthority .network c = false := by
    intro s hs c hc
    simpa using List.all_eq_true.mp hs c hc
  have hname : ∀ c, Idna.isForbidden c = false → Url.endsAuthority .network c = false := by
    intro c hc
    by_contra hends
    simp only [Url.endsAuthority, Url.isSlash, Url.SchemeClass.isSpecial, Bool.true_and,
      Bool.not_eq_false, Bool.or_eq_true, decide_eq_true_eq] at hends
    rcases hends with ((rfl | rfl) | rfl) | rfl
    · cases hc
    · cases hc
    · cases hc
    · cases hc
  have hhost : ∀ c ∈ a.host.text.toList, Url.endsAuthority .network c = false := by
    refine Host.forall_mem_text (fun name hn c hc => ?_) (hmarks _ (by decide)) hdigit (by decide)
    have hserver := h.host
    rw [hn] at hserver
    exact hname c (hserver.2 c hc).2
  refine ⟨forall_mem_text h.username h.password hhost (hmarks _ (by decide)) hdigit, ?_⟩
  have hne := h.host.text_ne_nil
  simp [Authority.text, hostPortText, hne]

namespace Url

variable {scheme : String} {cs rest : List Char} {u v : Url}

/-- The authority of a network URL names a server. -/
theorem isServer_of_parseAuthority {a : Authority} (hk : schemeClass scheme = .network)
    (h : parseAuthority scheme cs = .ok (a, rest)) : a.IsServer := by
  obtain ⟨-, hostPort, after, -, hhost, -⟩ := of_parseAuthority h
  obtain ⟨husername, hpassword⟩ := forall_mem_credentials
    (P := fun c => endsAuthority .network c = false) h (by decide) (by decide) (by decide +kernel)
  refine ⟨husername, hpassword, ?_⟩
  have hread := (of_parseHostPort hhost).1
  rw [parseHost, hk] at hread
  simp only [SchemeClass.isSpecial, if_true] at hread
  split at hread
  · cases hread
  · exact isServer_of_parseDomainHost hread

/-! ## Whole URLs -/

/-- A URL of a network scheme as reading gives it: it names a server, and its path is a list of
segments that stay as they are. -/
structure IsNetwork (u : Url) : Prop where
  kind : u.kind = .network
  server : ∃ a, u.authority = some a ∧ a.IsServer
  path : ∃ segments, u.path = .rooted segments ∧ segments ≠ [] ∧ KeptSegments segments

/-- The path of a network URL is written with a slash at its front and in path characters. -/
theorem IsNetwork.path_text (h : u.IsNetwork) :
    ∃ cs, u.path.text.toList = '/' :: cs ∧ ∀ c ∈ cs, IsPathChar c := by
  obtain ⟨segments, hpath, hne, hkept⟩ := h.path
  have hchars := hkept.isPathChar
  rw [hpath, toList_text_rooted]
  cases segments with
  | nil => exact absurd rfl hne
  | cons s segments => exact ⟨_, rfl, (List.forall_mem_cons.mp hchars).2⟩

/-- The path of a network URL begins after its slash. -/
theorem pathAfterAuthority_network (cs : List Char) :
    pathAfterAuthority .network cs = follow .network [] (dropSlash .network cs) := by
  simp [pathAfterAuthority, SchemeClass.isSpecial]

/-- What follows the slashes of a network URL gives one. -/
theorem isNetwork_of_parseAfterSlashes (hk : schemeClass scheme = .network)
    (h : parseAfterSlashes scheme cs = .ok u) : u.IsNetwork := by
  obtain ⟨a, rest, hauthority, rfl⟩ := of_parseAfterSlashes h
  refine ⟨hk, ⟨a, rfl, isServer_of_parseAuthority hk hauthority⟩, _, rfl, ?_⟩
  have hnone : KeptSegments [] := fun _ hs => absurd hs List.not_mem_nil
  have hkept := kept_follow hnone (dropSlash .network (cutTail rest).1)
  rw [hk, pathAfterAuthority_network]
  exact ⟨hkept.2, hkept.1⟩

/-- A text that stands for a URL of a network scheme gives one. -/
theorem isNetwork_of_parse {s : String} (h : parse s = .ok u) (hk : u.kind = .network) :
    u.IsNetwork := by
  obtain ⟨cs, hcs⟩ := of_parse h hk
  exact isNetwork_of_parseAfterSlashes hk hcs

/-- A part of a network URL gives one. -/
theorem isNetwork_of_parseRelative {base : Url} (hb : base.IsNetwork)
    (h : parseRelative base cs = .ok u) : u.IsNetwork := by
  obtain ⟨segments, hpath, hne, hkept⟩ := hb.path
  have hfrom : ∀ front, KeptSegments front → ∀ cs, (assemble base.scheme base.authority
      (fun path => .rooted (follow base.kind front path)) cs).IsNetwork := by
    intro front hfront cs
    have hfollow := kept_follow hfront (cutTail cs).1
    refine ⟨hb.kind, hb.server, _, rfl, ?_⟩
    rw [hb.kind]
    exact ⟨hfollow.2, hfollow.1⟩
  have hsegments : KeptSegments base.path.segments := by
    rw [hpath]
    exact hkept
  unfold parseRelative at h
  simp only at h
  split at h
  · obtain rfl := Except.ok.inj h
    exact ⟨hb.kind, hb.server, hb.path⟩
  · obtain rfl := Except.ok.inj h
    exact ⟨hb.kind, hb.server, hb.path⟩
  · obtain rfl := Except.ok.inj h
    exact ⟨hb.kind, hb.server, hb.path⟩
  · split at h
    · split at h
      · split at h
        · exact isNetwork_of_parseAfterSlashes hb.kind h
        split at h
        · exact isNetwork_of_parseAfterSlashes hb.kind h
        · obtain rfl := Except.ok.inj h
          exact hfrom [] (fun _ hs => absurd hs List.not_mem_nil) _
      · obtain rfl := Except.ok.inj h
        exact hfrom [] (fun _ hs => absurd hs List.not_mem_nil) _
    · obtain rfl := Except.ok.inj h
      exact hfrom _ (fun s hs => hsegments s (List.dropLast_subset _ hs)) _

/-- A text that is no URL by itself gives a URL of a network scheme only at one, as a part of it. -/
theorem of_join {base : Url} {s : String} {e : ParseError} (hs : parse s = .error e)
    (h : base.join s = .ok u) (hk : u.kind = .network) :
    base.kind = .network ∧ ∃ cs, parseRelative base cs = .ok u := by
  have hpart : ∀ cs, parseRelative base cs = .ok u →
      base.kind = .network ∧ ∃ cs, parseRelative base cs = .ok u := by
    intro cs hcs
    rw [kind, scheme_of_parseRelative hcs] at hk
    exact ⟨hk, cs, hcs⟩
  have hfile : u.scheme ≠ "file" := scheme_ne_file hk
  unfold parse parseFrom at hs
  unfold join parseFrom at h
  simp only at hs h
  split at h
  · next scheme rest hscheme hcut =>
    simp only [hscheme, hcut] at hs
    unfold parseWithScheme at hs h
    simp only at hs h
    split at h
    · next hgeneral =>
      rw [hgeneral] at hs
      cases hs.symm.trans h
    · exact absurd (scheme_of_parseFile_filter h) hfile
    · next hnetwork =>
      rw [hnetwork] at hs
      split at h
      · exact hpart _ h
      · cases hs.symm.trans h
  · unfold parseWithoutScheme at h
    simp only at h
    split at h
    · next rest _ => exact hpart ('#' :: rest) h
    · cases h
    · split at h
      · next hbase => exact absurd (scheme_of_parseFile_some hbase h) hfile
      · exact hpart _ h

/-- Path characters in front of a text belong to its path. -/
theorem cutTail_append {path : List Char} (hpath : ∀ c ∈ path, IsPathChar c) (tail : List Char) :
    cutTail (path ++ tail) = (path ++ (cutTail tail).1, (cutTail tail).2) := by
  have hquery : '?' ∉ path := fun hmem => (hpath _ hmem).facts.2.1 rfl
  have hfragment : '#' ∉ path := fun hmem => (hpath _ hmem).facts.2.2.1 rfl
  unfold cutTail
  rw [Text.cutAt_append hfragment]
  cases Text.cutAt '#' tail with
  | none =>
    simp only [Option.map_none, Text.cutAt_append hquery]
    cases Text.cutAt '?' tail with
    | none => rfl
    | some sides => rfl
  | some sides =>
    simp only [Option.map_some, Text.cutAt_append hquery]
    cases Text.cutAt '?' sides.1 with
    | none => rfl
    | some inner => rfl

/-- A text of path characters is all path. -/
theorem cutTail_of_isPathChar (hcs : ∀ c ∈ cs, IsPathChar c) : cutTail cs = (cs, none, none) := by
  have hcut := cutTail_append hcs []
  rwa [List.append_nil, show cutTail [] = ([], none, none) from rfl, List.append_nil] at hcut

/-- So it is its own path. -/
theorem fst_cutTail_of_isPathChar (hcs : ∀ c ∈ cs, IsPathChar c) : (cutTail cs).1 = cs := by
  rw [cutTail_of_isPathChar hcs]

/-- What follows the path of a URL begins a query or a fragment. -/
private theorem head?_tailText (u : Url) : ∀ c ∈ u.tailText.toList.head?, c = '?' ∨ c = '#' := by
  intro c hc
  unfold tailText at hc
  cases hq : u.query with
  | some query =>
    rw [hq] at hc
    simp only [String.toList_append] at hc
    exact .inl (Option.some.inj hc).symm
  | none =>
    cases hf : u.fragment with
    | some fragment =>
      rw [hq, hf] at hc
      simp only [String.toList_append] at hc
      exact .inr (Option.some.inj hc).symm
    | none =>
      rw [hq, hf] at hc
      cases hc

/-- A query or a fragment has no path before it. -/
private theorem fst_cutTail_of_head? {tail : List Char}
    (htail : ∀ c ∈ tail.head?, c = '?' ∨ c = '#') : (cutTail tail).1 = [] := by
  cases tail with
  | nil => rfl
  | cons c tail =>
    rcases htail c rfl with rfl | rfl
    · unfold cutTail
      simp only [Text.cutAt]
      cases Text.cutAt '#' tail with
      | none => rfl
      | some sides => rfl
    · rfl

/-- The text of an authority that names a server ends at the next slash. -/
theorem cut_of_isServer {a : Authority} (ha : a.IsServer) (cs : List Char) :
    (a.text.toList ++ '/' :: cs).takeWhile (!endsAuthority .network ·) = a.text.toList ∧
      (a.text.toList ++ '/' :: cs).dropWhile (!endsAuthority .network ·) = '/' :: cs := by
  have hall : ∀ c ∈ a.text.toList, (!endsAuthority .network c) = true := fun c hc => by
    rw [ha.text.1 c hc]
    rfl
  have hslash : (!endsAuthority .network '/') = false := by decide
  constructor
  · rw [List.takeWhile_append_of_pos hall, List.takeWhile_cons_of_neg (by simp [hslash]),
      List.append_nil]
  · rw [List.dropWhile_append_of_pos hall, List.dropWhile_cons_of_neg (by simp [hslash])]

/-- An authority that names a server is cut off where it ends. -/
private theorem rest_of_parseAuthority {a b : Authority} (ha : a.IsServer)
    (hk : schemeClass scheme = .network)
    (h : parseAuthority scheme (a.text.toList ++ '/' :: cs) = .ok (b, rest)) : rest = '/' :: cs := by
  obtain ⟨-, hostPort, after, hmem, hread, hrest⟩ := of_parseAuthority h
  rw [hk, (cut_of_isServer ha cs).1] at hmem
  rw [hk, (cut_of_isServer ha cs).2] at hrest
  have hafter : after = [] := rest_of_parseHostPort hread fun hback => by
    have hends := ha.text.1 _ (hmem _ hback)
    cases hends
  rw [hrest, hafter, List.nil_append]

/-- What follows the slash does not change how an authority is read. -/
private theorem parseAuthority_of_slash {a b : Authority} (ha : a.IsServer)
    (hk : schemeClass scheme = .network)
    (h : parseAuthority scheme (a.text.toList ++ '/' :: cs) = .ok (b, '/' :: cs))
    (ds : List Char) :
    parseAuthority scheme (a.text.toList ++ '/' :: ds) = .ok (b, '/' :: ds) := by
  have hafter : ∀ (b' : Authority) (after : List Char),
      (Except.ok (b', after ++ '/' :: cs) : Except ParseError _) = .ok (b, '/' :: cs) →
      (Except.ok (b', after ++ '/' :: ds) : Except ParseError _) = .ok (b, '/' :: ds) := by
    intro b' after hsame
    obtain ⟨rfl, hrest⟩ := Prod.mk.inj (Except.ok.inj hsame)
    rw [List.append_left_eq_self.mp hrest, List.nil_append]
  unfold parseAuthority at h ⊢
  simp only [bind, Except.bind, pure, Except.pure, hk, (cut_of_isServer ha _).1,
    (cut_of_isServer ha _).2] at h ⊢
  split at h
  · split at h
    · cases h
    · exact hafter _ _ h
  · split at h
    · cases h
    next hgiven =>
    simp only [List.cons_ne_nil, not_false_eq_true, and_true, ne_eq] at hgiven ⊢
    rw [if_neg hgiven]
    split at h
    · cases h
    split at h
    · cases h
    next hnamed =>
    simp only [hnamed, if_false]
    exact hafter _ _ h

/-- What follows the slashes of a network URL gives a path that is hardly longer. -/
theorem length_of_parseAfterSlashes (hk : schemeClass scheme = .network)
    (hcs : ∀ c ∈ cs, IsPathChar c) (h : parseAfterSlashes scheme cs = .ok u) :
    u.path.text.toList.length ≤ cs.length + 1 := by
  obtain ⟨a, rest, hauthority, rfl⟩ := of_parseAfterSlashes h
  obtain ⟨-, hostPort, after, hmem, hread, hrest⟩ := of_parseAuthority hauthority
  have hafter : after = [] := rest_of_parseHostPort hread fun hback =>
    (hcs _ (List.takeWhile_subset _ (hmem _ hback))).2.2 rfl
  have hsuffix : dropSlash .network rest <:+ cs := by
    have hdrop : rest <:+ cs := by
      rw [hrest, hafter, List.nil_append]
      exact List.dropWhile_suffix _
    unfold dropSlash
    split
    · exact (List.drop_suffix _ _).trans hdrop
    · exact hdrop
  have hsub : ∀ c ∈ rest, IsPathChar c := by
    rw [hrest, hafter, List.nil_append]
    exact fun c hc => hcs c (List.dropWhile_subset _ hc)
  have hfollow := length_follow_le fun c hc => hcs c (hsuffix.subset hc)
  have hlength := hsuffix.length_le
  have hpath : (assemble scheme (some a) (fun path =>
      .rooted (pathAfterAuthority (schemeClass scheme) path)) rest).path =
        .rooted (follow .network [] (dropSlash .network rest)) := by
    change Path.rooted (pathAfterAuthority _ (cutTail rest).1) = _
    rw [fst_cutTail_of_isPathChar hsub, hk, pathAfterAuthority_network]
  rw [hpath, toList_text_rooted]
  omega

/-- The text of a network URL is read from the server on. -/
theorem parse_text (h : u.IsNetwork) (hascii : u.IsAscii) :
    ∃ a, u.authority = some a ∧ a.IsServer ∧ parse u.text =
      parseAfterSlashes u.scheme (a.text.toList ++ (u.path.text.toList ++ u.tailText.toList)) := by
  obtain ⟨a, ha, hserver⟩ := h.server
  obtain ⟨cs, hcs, hkept⟩ := h.path_text
  have hchars : ∀ c ∈ '/' :: cs, IsPathChar c := List.forall_mem_cons.mpr ⟨by decide, hkept⟩
  -- the text is cut into its parts
  have htext : u.text = u.scheme ++ ":" ++
      String.ofList ('/' :: '/' :: (a.text.toList ++ '/' :: (cs ++ u.tailText.toList))) := by
    rw [← String.toList_inj]
    simp [Url.text, authorityText, ha, hcs]
  have hvisible : AsciiFrom 0x21
      ('/' :: '/' :: (a.text.toList ++ '/' :: (cs ++ u.tailText.toList))) := by
    have hall := asciiFrom_text_of_path (Nat.le_refl _) hascii
      (hcs ▸ asciiFrom_of_isPathChar hchars)
    rw [htext, String.toList_append, String.toList_ofList] at hall
    exact (Text.asciiFrom_append.mp hall).2
  obtain ⟨d, ds, hd⟩ := List.exists_cons_of_ne_nil hserver.text.2
  have hslash : isAnySlash d = false := by
    have hends := hserver.text.1 d (hd ▸ List.mem_cons_self)
    simp only [endsAuthority, isSlash, SchemeClass.isSpecial, Bool.true_and, Bool.or_eq_false_iff]
      at hends
    rw [isAnySlash, hends.1.1.1, hends.1.1.2]
    rfl
  refine ⟨a, ha, hserver, ?_⟩
  rw [htext, parse_of_network h.kind hvisible, hcs, hd, List.cons_append,
    List.dropWhile_cons_of_pos (by decide), List.dropWhile_cons_of_pos (by decide),
    List.dropWhile_cons_of_neg (by simp [hslash]), List.cons_append, List.cons_append]

/-- What a network URL is read as from its path on. -/
def reassemble (u : Url) (authority : Option Authority) : Url :=
  assemble u.scheme authority
    (fun path => .rooted (follow .network [] (dropSlash .network path)))
    (u.path.text.toList ++ u.tailText.toList)

private theorem assemble_eq_reassemble (hk : schemeClass u.scheme = .network)
    (authority : Option Authority) :
    assemble u.scheme authority
        (fun path => .rooted (pathAfterAuthority (schemeClass u.scheme) path))
        (u.path.text.toList ++ u.tailText.toList) = u.reassemble authority := by
  rw [hk]
  simp only [pathAfterAuthority_network]
  rfl

/-- A network URL that is written and read again is assembled from its path and what follows it. -/
theorem of_reread (h : u.IsNetwork) (hascii : u.IsAscii) (hv : parse u.text = .ok v) :
    ∃ b, v = u.reassemble (some b) := by
  obtain ⟨a, -, hserver, htext⟩ := parse_text h hascii
  obtain ⟨cs, hcs, -⟩ := h.path_text
  rw [htext, hcs] at hv
  obtain ⟨b, rest, hauthority, rfl⟩ := of_parseAfterSlashes hv
  refine ⟨b, ?_⟩
  rw [rest_of_parseAuthority hserver h.kind hauthority, ← assemble_eq_reassemble h.kind, hcs]
  rfl

/-- If a network URL reads back, so does the server of every other URL at it. -/
theorem parse_text_of_same_server (h : u.IsNetwork) (hascii : u.IsAscii)
    (hread : parse u.text = .ok u) (hv : v.IsNetwork) (hvascii : v.IsAscii)
    (hscheme : v.scheme = u.scheme) (hauthority : v.authority = u.authority) :
    parse v.text = .ok (v.reassemble v.authority) := by
  obtain ⟨a, ha, hserver, htext⟩ := parse_text h hascii
  obtain ⟨b, hb, -, hvtext⟩ := parse_text hv hvascii
  obtain rfl : b = a := by
    rw [hauthority, ha] at hb
    exact (Option.some.inj hb).symm
  obtain ⟨cs, hcs, -⟩ := h.path_text
  obtain ⟨ds, hds, -⟩ := hv.path_text
  rw [htext, hcs, List.cons_append] at hread
  obtain ⟨b', rest, hfound, hu⟩ := of_parseAfterSlashes hread
  obtain rfl := rest_of_parseAuthority hserver h.kind hfound
  obtain rfl : b' = b := by
    have hsame : u.authority = some b' := by
      conv_lhs => rw [hu]
      rfl
    exact Option.some.inj (hsame.symm.trans ha)
  have hfound' := parseAuthority_of_slash hserver h.kind hfound (ds ++ v.tailText.toList)
  rw [hvtext, hds, hscheme, List.cons_append, parseAfterSlashes, hfound', hb,
    ← assemble_eq_reassemble (hscheme ▸ h.kind), hds, hscheme]
  rfl

/-- The path of a network URL that is written and read again is what its path text gives. -/
theorem path_of_reread (h : u.IsNetwork) (hascii : u.IsAscii) (hv : parse u.text = .ok v) :
    ∃ cs, u.path.text.toList = '/' :: cs ∧ (∀ c ∈ cs, IsPathChar c) ∧
      v.path = .rooted (follow .network [] cs) := by
  obtain ⟨cs, hcs, hkept⟩ := h.path_text
  obtain ⟨b, rfl⟩ := of_reread h hascii hv
  refine ⟨cs, hcs, hkept, ?_⟩
  change Path.rooted (follow _ _ (dropSlash _ (cutTail (_ ++ _)).1)) = _
  rw [hcs, cutTail_append (List.forall_mem_cons.mpr ⟨by decide, hkept⟩),
    fst_cutTail_of_head? (head?_tailText u), List.append_nil]
  rfl

end Url

end SignOn
