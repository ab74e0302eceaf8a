import SignOn.OAuth.SiteOrigin
import SignOn.Proofs.Url.Reading

/-!
# URLs of network schemes

A URL of a network scheme always names a server and has a path of segments. A text in visible ASCII
is read as it stands, and one that begins with a slash leads to another server only if a second
slash or a backslash follows.
-/

namespace SignOn

namespace Url

open Text (AsciiFrom)

/-! ## Schemes -/

/-- The network schemes are five. -/
theorem network_iff {scheme : String} :
    schemeClass scheme = .network ↔ scheme ∈ ["http", "ws", "https", "wss", "ftp"] := by
  have hnames : ∀ s ∈ ["http", "ws", "https", "wss", "ftp"], schemeClass s = .network := by decide
  constructor
  · intro h
    unfold schemeClass at h
    split at h
    · cases h
    split at h
    · next hport =>
      unfold defaultPort? at hport
      simp only [List.mem_cons, List.not_mem_nil, or_false]
      split at hport
      · next hs =>
        rcases hs with rfl | rfl
        · simp
        · simp
      split at hport
      · next hs =>
        rcases hs with rfl | rfl
        · simp
        · simp
      split at hport
      · next hs => simp [hs]
      · cases hport
    · cases h
  · exact hnames scheme

/-- The schemes of the web are network schemes. -/
theorem network_of_web {scheme : String} (h : scheme = "http" ∨ scheme = "https") :
    schemeClass scheme = .network := by
  refine network_iff.mpr ?_
  rcases h with rfl | rfl
  · simp
  · simp

/-- A scheme as it is read: a word in lower case that begins with a letter. -/
def IsSchemeWord (scheme : String) : Prop :=
  scheme.toList.head?.any Char.isAlpha = true ∧
    ∀ c ∈ scheme.toList, isSchemeChar c = true ∧ c.toLower = c

/-- Schemes are read as such words. -/
theorem isSchemeWord_of_scheme? {scheme : String} {cs : List Char} (h : scheme? cs = some scheme) :
    IsSchemeWord scheme := by
  have hlower : ∀ c : Char, c.toNat < 0x80 → isSchemeChar c = true →
      isSchemeChar c.toLower = true ∧ c.toLower.toLower = c.toLower ∧
        (c.isAlpha = true → c.toLower.isAlpha = true) := Text.forall_ascii (by decide)
  have hword : ∀ c, isSchemeChar c = true → _ := fun c hc =>
    hlower c (by have := visible_of_isSchemeChar hc; omega) hc
  unfold scheme? at h
  split at h
  · next c cs =>
    split at h
    · next halpha =>
      obtain rfl := Option.some.inj h
      have hfirst : isSchemeChar c = true := by simp [isSchemeChar, Char.isAlphanum, halpha.1]
      rw [IsSchemeWord, String.toList_ofList]
      constructor
      · rw [List.takeWhile_cons_of_pos hfirst, List.map_cons, List.head?_cons, Option.any_some]
        exact (hword c hfirst).2.2 halpha.1
      · intro d hd
        obtain ⟨e, he, rfl⟩ := List.mem_map.mp hd
        have hkept := hword e (List.all_eq_true.mp List.all_takeWhile e he)
        exact ⟨hkept.1, hkept.2.1⟩
    · cases h
  · cases h

/-- A text that begins with such a word and a colon has it as its scheme. -/
theorem IsSchemeWord.scheme?_append {scheme : String} (h : IsSchemeWord scheme) (cs : List Char) :
    scheme? (scheme.toList ++ ':' :: cs) = some scheme := by
  obtain ⟨hhead, hall⟩ := h
  have hcolon : ¬ isSchemeChar ':' = true := by decide
  have hchars : ∀ c ∈ scheme.toList, isSchemeChar c = true := fun c hc => (hall c hc).1
  have htake : (scheme.toList ++ ':' :: cs).takeWhile isSchemeChar = scheme.toList := by
    rw [List.takeWhile_append_of_pos hchars, List.takeWhile_cons_of_neg hcolon, List.append_nil]
  have hdrop : (scheme.toList ++ ':' :: cs).dropWhile isSchemeChar = ':' :: cs := by
    rw [List.dropWhile_append_of_pos hchars, List.dropWhile_cons_of_neg hcolon]
  have hmap : scheme.toList.map Char.toLower = scheme.toList :=
    (List.map_congr_left fun c hc => (hall c hc).2).trans (List.map_id _)
  cases hlist : scheme.toList with
  | nil => simp [hlist] at hhead
  | cons c word =>
    rw [hlist, List.head?_cons, Option.any_some] at hhead
    rw [hlist] at htake hdrop
    rw [List.cons_append] at htake hdrop ⊢
    simp only [scheme?, htake, hdrop, hhead, List.head?_cons, and_self, if_true]
    rw [← hlist, hmap, String.ofList_toList]

/-- Schemes are visible and hold no colon. -/
theorem IsSchemeWord.visible {scheme : String} (h : IsSchemeWord scheme) :
    AsciiFrom 0x21 scheme.toList ∧ ':' ∉ scheme.toList :=
  ⟨fun c hc => visible_of_isSchemeChar (h.2 c hc).1,
    fun hc => absurd (h.2 ':' hc).1 (by decide)⟩

/-- The network schemes are such words. -/
theorem isSchemeWord_of_network {scheme : String} (hk : schemeClass scheme = .network) :
    IsSchemeWord scheme := by
  have hall : ∀ s ∈ ["http", "ws", "https", "wss", "ftp"],
      s.toList.head?.any Char.isAlpha = true ∧
        s.toList.all (fun c => isSchemeChar c && c.toLower == c) = true := by decide
  obtain ⟨hhead, hchars⟩ := hall scheme (network_iff.mp hk)
  refine ⟨hhead, fun c hc => ?_⟩
  simpa using List.all_eq_true.mp hchars c hc

/-! ## Texts in visible ASCII -/

private theorem not_le_space {c : Char} (h : 0x21 ≤ c.toNat) : ¬ c ≤ ' ' := by
  intro hle
  have hle' : c.toNat ≤ ' '.toNat := hle
  simp at hle'
  omega

/-- Nothing is taken from the ends of a visible text. -/
theorem clipped_of_visible {s : String} (h : AsciiFrom 0x21 s.toList) : clipped s = s.toList := by
  have hkept : ∀ cs : List Char, AsciiFrom 0x21 cs → cs.dropWhile (· ≤ ' ') = cs := by
    intro cs hcs
    cases cs with
    | nil => rfl
    | cons c cs =>
      have hc := not_le_space (Text.asciiFrom_cons.mp hcs).1.1
      rw [List.dropWhile_cons_of_neg (by simpa using hc)]
  have hreverse : AsciiFrom 0x21 s.toList.reverse := fun c hc => h c (List.mem_reverse.mp hc)
  rw [clipped, Text.trimBy, hkept _ h, hkept _ hreverse, List.reverse_reverse]

/-- A visible text has no breaks. -/
theorem withoutBreaks_of_visible {cs : List Char} (h : AsciiFrom 0x21 cs) :
    withoutBreaks cs = cs := by
  rw [withoutBreaks, List.filter_eq_self]
  intro c hc
  have hbreak : isBreak c = true → c.toNat < 0x21 := by
    intro hb
    simp only [isBreak, Bool.or_eq_true, decide_eq_true_eq] at hb
    rcases hb with (rfl | rfl) | rfl
    · decide
    · decide
    · decide
  have := h c hc
  cases hb : isBreak c with
  | false => rfl
  | true =>
    have := hbreak hb
    omega

/-! ## Whole URLs -/

variable {scheme : String} {cs : List Char} {u : Url}

/-- What follows a double slash is an authority and the rest. -/
theorem of_parseAfterSlashes (h : parseAfterSlashes scheme cs = .ok u) :
    ∃ a rest, parseAuthority scheme cs = .ok (a, rest) ∧
      u = assemble scheme (some a)
        (fun path => .rooted (pathAfterAuthority (schemeClass scheme) path)) rest := by
  unfold parseAfterSlashes at h
  simp only [bind, Except.bind, pure, Except.pure] at h
  split at h
  · cases h
  next found hfound => exact ⟨found.1, found.2, hfound, (Except.ok.inj h).symm⟩

/-- What follows a double slash does not change the scheme. -/
theorem scheme_of_parseAfterSlashes (h : parseAfterSlashes scheme cs = .ok u) :
    u.scheme = scheme := by
  obtain ⟨a, rest, -, rfl⟩ := of_parseAfterSlashes h
  rfl

private theorem scheme_of_parseGeneral (h : parseGeneral scheme cs = .ok u) :
    u.scheme = scheme := by
  unfold parseGeneral at h
  split at h
  · exact scheme_of_parseAfterSlashes h
  · rw [← Except.ok.inj h]
    rfl
  · rw [← Except.ok.inj h]
    rfl

private theorem scheme_of_parseFile {base : Option Url} (hbase : ∀ b ∈ base, b.scheme = "file")
    (h : parseFile base cs = .ok u) : u.scheme = "file" := by
  unfold parseFile at h
  simp only at h
  split at h
  · rw [← Except.ok.inj h]
    split
    · next b => exact hbase b rfl
    · rfl
  · split at h
    · split at h
      · split at h
        · split at h
          · rw [← Except.ok.inj h]
            rfl
          · simp only [bind, Except.bind, pure, Except.pure] at h
            split at h
            · cases h
            · rw [← Except.ok.inj h]
              rfl
        · rw [← Except.ok.inj h]
          repeat' split
          all_goals rfl
      · rw [← Except.ok.inj h]
        repeat' split
        all_goals rfl
    · split at h
      · rw [← Except.ok.inj h]
        rfl
      · next b =>
        split at h
        · rw [← Except.ok.inj h]
          rfl
        split at h
        · rw [← Except.ok.inj h]
          exact hbase b rfl
        split at h
        · rw [← Except.ok.inj h]
          rfl
        · rw [← Except.ok.inj h]
          rfl

/-- A part of a URL keeps its scheme and its authority, unless it begins with two slashes. -/
theorem of_parseRelative {base : Url} (h : parseRelative base cs = .ok u) :
    (u.scheme = base.scheme ∧ u.authority = base.authority) ∨
      ∃ rest, parseAfterSlashes base.scheme rest = .ok u := by
  unfold parseRelative at h
  simp only at h
  split at h
  · obtain rfl := Except.ok.inj h
    exact .inl ⟨rfl, rfl⟩
  · obtain rfl := Except.ok.inj h
    exact .inl ⟨rfl, rfl⟩
  · obtain rfl := Except.ok.inj h
    exact .inl ⟨rfl, rfl⟩
  · split at h
    · split at h
      · split at h
        · exact .inr ⟨_, h⟩
        split at h
        · exact .inr ⟨_, h⟩
        · obtain rfl := Except.ok.inj h
          exact .inl ⟨rfl, rfl⟩
      · obtain rfl := Except.ok.inj h
        exact .inl ⟨rfl, rfl⟩
    · obtain rfl := Except.ok.inj h
      exact .inl ⟨rfl, rfl⟩

/-- A part of a URL has its scheme. -/
theorem scheme_of_parseRelative {base : Url} (h : parseRelative base cs = .ok u) :
    u.scheme = base.scheme := by
  rcases of_parseRelative h with ⟨hscheme, -⟩ | ⟨rest, hrest⟩
  · exact hscheme
  · exact scheme_of_parseAfterSlashes hrest

private theorem eq_file_of_schemeClass (h : schemeClass scheme = .file) : scheme = "file" := by
  unfold schemeClass at h
  split at h
  · assumption
  · split at h
    · cases h
    · cases h

/-- What is read as a file after its scheme has this scheme. -/
theorem scheme_of_parseFile_filter {base : Option Url}
    (h : parseFile (base.filter (·.scheme = "file")) cs = .ok u) : u.scheme = "file" :=
  scheme_of_parseFile (fun _ hb => by simpa using (Option.filter_eq_some_iff.mp hb).2) h

/-- So has what is read at a file. -/
theorem scheme_of_parseFile_some {base : Url} (hbase : base.kind = .file)
    (h : parseFile (some base) cs = .ok u) : u.scheme = "file" := by
  refine scheme_of_parseFile (fun b hb => ?_) h
  rw [← Option.some.inj hb]
  exact eq_file_of_schemeClass hbase

/-- The scheme of files is none of the network schemes. -/
theorem scheme_ne_file (hk : u.kind = .network) : u.scheme ≠ "file" := by
  intro hscheme
  rw [kind, hscheme] at hk
  cases hk

private theorem scheme_of_parseWithScheme {base : Option Url}
    (h : parseWithScheme base scheme cs = .ok u) : u.scheme = scheme := by
  unfold parseWithScheme at h
  simp only at h
  split at h
  · exact scheme_of_parseGeneral h
  · next hfile =>
    rw [eq_file_of_schemeClass hfile]
    exact scheme_of_parseFile_filter h
  · split at h
    · split at h
      · next hsame => rw [scheme_of_parseRelative h, hsame.2]
      · exact scheme_of_parseAfterSlashes h
    · exact scheme_of_parseAfterSlashes h

private theorem scheme_of_parseWithoutScheme {base : Option Url}
    (h : parseWithoutScheme base cs = .ok u) : ∃ b ∈ base, u.scheme = b.scheme := by
  unfold parseWithoutScheme at h
  split at h
  · cases h
  next b =>
  refine ⟨b, rfl, ?_⟩
  simp only at h
  split at h
  · rw [← Except.ok.inj h]
  · cases h
  · split at h
    · next hfile =>
      rw [eq_file_of_schemeClass hfile]
      exact scheme_of_parseFile_some hfile h
    · exact scheme_of_parseRelative h

/-- A URL has the scheme that its text begins with, or that of its base. -/
theorem scheme_of_parseFrom {base : Option Url} {s : String} (h : parseFrom base s = .ok u) :
    scheme? (withoutBreaks (clipped s)) = some u.scheme ∨ ∃ b ∈ base, u.scheme = b.scheme := by
  unfold parseFrom at h
  simp only at h
  split at h
  · next hscheme _ =>
    rw [scheme_of_parseWithScheme h]
    exact .inl hscheme
  · exact .inr (scheme_of_parseWithoutScheme h)

/-- A URL that is read without a base has the scheme that its text begins with. -/
theorem scheme_of_parse {s : String} (h : parse s = .ok u) :
    scheme? (withoutBreaks (clipped s)) = some u.scheme := by
  rcases scheme_of_parseFrom h with hscheme | ⟨b, hb, -⟩
  · exact hscheme
  · cases hb

/-- Nothing is taken from a scheme at the front of a text, nor the colon after it. -/
private theorem clipped_of_isSchemeWord (h : IsSchemeWord scheme) (rest : String) :
    ∃ cs, clipped (scheme ++ ":" ++ rest) = scheme.toList ++ ':' :: cs := by
  have hlist : (scheme ++ ":" ++ rest).toList = scheme.toList ++ ':' :: rest.toList := by simp
  have hfront : (scheme.toList ++ ':' :: rest.toList).dropWhile (· ≤ ' ') =
      scheme.toList ++ ':' :: rest.toList := by
    cases hword : scheme.toList with
    | nil => exact List.dropWhile_cons_of_neg (by decide)
    | cons c word =>
      have hc := not_le_space (h.visible.1 c (by simp [hword])).1
      exact List.dropWhile_cons_of_neg (by simpa using hc)
  have hback : (rest.toList.reverse ++ ':' :: scheme.toList.reverse).dropWhile (· ≤ ' ') =
      rest.toList.reverse.dropWhile (· ≤ ' ') ++ ':' :: scheme.toList.reverse := by
    rw [List.dropWhile_append]
    split
    · next hnone =>
      rw [List.isEmpty_iff.mp hnone]
      exact List.dropWhile_cons_of_neg (by decide)
    · rfl
  refine ⟨(rest.toList.reverse.dropWhile (· ≤ ' ')).reverse, ?_⟩
  rw [clipped, Text.trimBy, hlist, hfront, List.reverse_append, List.reverse_cons,
    List.append_assoc, List.singleton_append, hback, List.reverse_append, List.reverse_cons,
    List.reverse_reverse, List.append_assoc, List.singleton_append]

/-- The text of a URL is read with its scheme. -/
theorem scheme_of_parse_text {v : Url} (h : IsSchemeWord u.scheme) (hv : parse u.text = .ok v) :
    v.scheme = u.scheme := by
  obtain ⟨cs, hclipped⟩ :=
    clipped_of_isSchemeWord h (u.authorityText ++ u.path.text ++ u.tailText)
  have htext : u.text = u.scheme ++ ":" ++ (u.authorityText ++ u.path.text ++ u.tailText) := by
    simp only [text, String.append_assoc]
  have hword : withoutBreaks u.scheme.toList = u.scheme.toList :=
    withoutBreaks_of_visible h.visible.1
  have hread := scheme_of_parse hv
  rw [withoutBreaks] at hword
  rw [htext, hclipped, withoutBreaks, List.filter_append, List.filter_cons_of_pos (by decide),
    hword, h.scheme?_append] at hread
  exact (Option.some.inj hread).symm

/-- A URL of a network scheme is read from the text after its slashes, or as a part of a base of such
a scheme. -/
theorem of_parseFrom {base : Option Url} {s : String} (h : parseFrom base s = .ok u)
    (hk : u.kind = .network) :
    (∃ cs, parseAfterSlashes u.scheme cs = .ok u) ∨
      ∃ b ∈ base, b.kind = .network ∧ ∃ cs, parseRelative b cs = .ok u := by
  have hpart : ∀ b ∈ base, ∀ cs, parseRelative b cs = .ok u →
      ∃ b ∈ base, b.kind = .network ∧ ∃ cs, parseRelative b cs = .ok u := by
    intro b hb cs hcs
    refine ⟨b, hb, ?_, cs, hcs⟩
    rw [kind, ← scheme_of_parseRelative hcs]
    exact hk
  have hslashes : ∀ scheme cs, parseAfterSlashes scheme cs = .ok u →
      ∃ cs, parseAfterSlashes u.scheme cs = .ok u := by
    intro scheme cs hcs
    rw [scheme_of_parseAfterSlashes hcs]
    exact ⟨cs, hcs⟩
  have hfile : u.scheme ≠ "file" := scheme_ne_file hk
  unfold parseFrom at h
  simp only at h
  split at h
  · unfold parseWithScheme at h
    simp only at h
    split at h
    · next hgeneral =>
      rw [kind, scheme_of_parseGeneral h, hgeneral] at hk
      cases hk
    · exact absurd (scheme_of_parseFile_filter h) hfile
    · split at h
      · split at h
        · exact .inr (hpart _ rfl _ h)
        · exact .inl (hslashes _ _ h)
      · exact .inl (hslashes _ _ h)
  · unfold parseWithoutScheme at h
    split at h
    · cases h
    simp only at h
    split at h
    · next rest _ => exact .inr (hpart _ rfl ('#' :: rest) h)
    · cases h
    · split at h
      · next hbase => exact absurd (scheme_of_parseFile_some hbase h) hfile
      · exact .inr (hpart _ rfl _ h)

/-- A URL of a network scheme that is read without a base is read from the text after its slashes. -/
theorem of_parse {s : String} (h : parse s = .ok u) (hk : u.kind = .network) :
    ∃ cs, parseAfterSlashes u.scheme cs = .ok u := by
  rcases of_parseFrom h hk with hslashes | ⟨b, hb, -⟩
  · exact hslashes
  · cases hb

/-- The path of a URL of a network scheme is a list of segments. -/
theorem rooted_of_parse {s : String} (h : parse s = .ok u) (hk : u.kind = .network) :
    ∃ segments, u.path = .rooted segments := by
  obtain ⟨cs, hcs⟩ := of_parse h hk
  obtain ⟨a, rest, -, hu⟩ := of_parseAfterSlashes hcs
  rw [hu]
  exact ⟨_, rfl⟩

/-- A visible text after a network scheme and a colon is read after its slashes. -/
theorem parse_of_network (hk : schemeClass scheme = .network) (hcs : AsciiFrom 0x21 cs) :
    parse (scheme ++ ":" ++ String.ofList cs) =
      parseAfterSlashes scheme (cs.dropWhile isAnySlash) := by
  have hword := isSchemeWord_of_network hk
  obtain ⟨hvisible, hcolon⟩ := hword.visible
  have hlist : (scheme ++ ":" ++ String.ofList cs).toList = scheme.toList ++ ':' :: cs := by
    simp [String.toList_append, String.toList_ofList]
  have hall : AsciiFrom 0x21 (scheme.toList ++ ':' :: cs) :=
    Text.asciiFrom_append.mpr ⟨hvisible, Text.asciiFrom_cons.mpr ⟨by decide, hcs⟩⟩
  rw [parse, parseFrom, clipped_of_visible (by rwa [hlist]), hlist]
  simp only [withoutBreaks_of_visible hall, hword.scheme?_append,
    Text.cutAt_append_cons hcolon, parseWithScheme, hk, withoutBreaks_of_visible hcs]

/-- A visible text that begins with a slash is read at a URL of a network scheme as a part of it. -/
theorem join_of_slash {base : Url} (hk : base.kind = .network) {segments : List String}
    (hpath : base.path = .rooted segments) {s : String} (hs : s.toList = '/' :: cs)
    (hcs : AsciiFrom 0x21 cs) : base.join s = parseRelative base ('/' :: cs) := by
  have hall : AsciiFrom 0x21 ('/' :: cs) := Text.asciiFrom_cons.mpr ⟨by decide, hcs⟩
  have hscheme : scheme? ('/' :: cs) = none := rfl
  have hfile : ¬ base.kind = .file := by
    rw [hk]
    decide
  rw [join, parseFrom, clipped_of_visible (by rwa [hs]), hs]
  simp only [withoutBreaks_of_visible hall, hscheme, parseWithoutScheme, hpath, hfile, if_false]
  rfl

/-- A visible text that begins with a slash is read as a URL of a network scheme only at a URL of
such a scheme. -/
theorem network_of_join_slash {base : Url} {s : String} (hs : s.toList = '/' :: cs)
    (hcs : AsciiFrom 0x21 cs) (h : base.join s = .ok u) (hk : u.kind = .network) :
    base.kind = .network ∧ ∃ segments, base.path = .rooted segments := by
  have hall : AsciiFrom 0x21 ('/' :: cs) := Text.asciiFrom_cons.mpr ⟨by decide, hcs⟩
  have hscheme : scheme? ('/' :: cs) = none := rfl
  rw [join, parseFrom, clipped_of_visible (by rwa [hs]), hs] at h
  simp only [withoutBreaks_of_visible hall, hscheme, parseWithoutScheme] at h
  cases hpath : base.path with
  | rootless text =>
    rw [hpath] at h
    cases h
  | rooted segments =>
    rw [hpath] at h
    change (if base.kind = .file then parseFile (some base) ('/' :: cs)
      else parseRelative base ('/' :: cs)) = .ok u at h
    split at h
    · next hfile => exact absurd (scheme_of_parseFile_some hfile h) (scheme_ne_file hk)
    · rw [kind, scheme_of_parseRelative h] at hk
      exact ⟨hk, segments, rfl⟩

/-- One slash leaves a text on the server of its base. -/
theorem parseRelative_of_slash {base : Url} (h : cs.head?.any isAnySlash = false) :
    parseRelative base ('/' :: cs) =
      .ok (assemble base.scheme base.authority
        (fun path => .rooted (follow base.kind [] path)) cs) := by
  cases cs with
  | nil => rfl
  | cons d after =>
    have hd : isAnySlash d = false := h
    have hne : d ≠ '/' := by
      rintro rfl
      cases hd
    have hslash : isAnySlash '/' = true := by decide
    unfold parseRelative
    simp [hd, hne, hslash]

/-- A slash and a backslash read as two slashes. -/
theorem parseRelative_of_backslash (base : Url) (cs : List Char) :
    parseRelative base ('/' :: '\\' :: cs) =
      parseAfterSlashes base.scheme (cs.dropWhile isAnySlash) := rfl

/-- Whether two URLs belong to one server: scheme, host and port are the same. -/
def SharesOrigin (u v : Url) : Prop :=
  u.scheme = v.scheme ∧ u.authority.map (·.host) = v.authority.map (·.host) ∧
    u.effectivePort? = v.effectivePort?

instance (u v : Url) : Decidable (u.SharesOrigin v) := inferInstanceAs (Decidable (_ ∧ _ ∧ _))

/-- What is assembled from the scheme and the authority of a URL shares its origin. -/
theorem sharesOrigin_assemble (base : Url) (path : List Char → Path) (cs : List Char) :
    (assemble base.scheme base.authority path cs).SharesOrigin base := ⟨rfl, rfl, rfl⟩

end Url

/-- The URL of an origin is what its text stands for. -/
theorem SiteOrigin.parse_of_base {origin : SiteOrigin} {base : Url} (h : origin.base = .ok base) :
    Url.parse origin.baseText = .ok base := by
  rw [SiteOrigin.base] at h
  cases hp : Url.parse origin.baseText with
  | error e =>
    rw [hp] at h
    cases h
  | ok u =>
    rw [hp] at h
    exact congrArg Except.ok (Except.ok.inj h)

end SignOn
