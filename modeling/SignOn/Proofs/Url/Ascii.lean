import SignOn.Proofs.Text.Ascii
import SignOn.Url.Basic

/-!
# URLs in ASCII

A URL whose components are ASCII is written in printable ASCII, and without blanks unless its path
is a rootless text.
-/

namespace SignOn

open Text (AsciiFrom)

/-- A host that is written in visible ASCII. -/
def Host.IsAscii : Host → Prop
  | domain name => AsciiFrom 0x21 name.toList
  | _ => True

/-- An authority that is written in visible ASCII. -/
structure Authority.IsAscii (a : Authority) : Prop where
  username : AsciiFrom 0x21 a.username.toList
  password : AsciiFrom 0x21 a.password.toList
  host : a.host.IsAscii

namespace Url

/-- Path segments in visible ASCII. -/
def AsciiSegments (segments : List String) : Prop := ∀ s ∈ segments, AsciiFrom 0x21 s.toList

/-- A path in ASCII, visible if it is a list of segments. -/
def Path.IsAscii : Path → Prop
  | rooted segments => AsciiSegments segments
  | rootless text => AsciiFrom 0x20 text.toList

end Url

/-- A URL whose components are ASCII. -/
structure Url.IsAscii (u : Url) : Prop where
  scheme : AsciiFrom 0x21 u.scheme.toList
  authority : ∀ a ∈ u.authority, a.IsAscii
  path : u.path.IsAscii
  query : ∀ query ∈ u.query, AsciiFrom 0x21 query.toList
  fragment : ∀ fragment ∈ u.fragment, AsciiFrom 0x21 fragment.toList

/-! ## Writing -/

/-- Hosts are written in the characters of names, digits and the marks of addresses. -/
theorem Host.forall_mem_text {P : Char → Prop} {host : Host}
    (hname : ∀ name, host = .domain name → ∀ c ∈ name.toList, P c)
    (hmarks : ∀ c ∈ ".:[]".toList, P c) (hdigit : ∀ c, c.isDigit = true → P c)
    (hhex : ∀ n < 16, P (Text.lowerHex n)) : ∀ c ∈ host.text.toList, P c := by
  have hsep : ∀ s : String, s.toList ⊆ ".:[]".toList → ∀ c ∈ s.toList, P c :=
    fun s hs c hc => hmarks c (hs hc)
  have hpieces : ∀ pieces, ∀ c ∈ (piecesText pieces).toList, P c := by
    intro pieces
    rw [piecesText, Text.join, String.toList_ofList]
    refine (Text.forall_mem_joinWith_iff (hsep ":" (by decide))).mpr fun piece hp => ?_
    obtain ⟨text, ht, rfl⟩ := List.mem_map.mp hp
    obtain ⟨p, -, rfl⟩ := List.mem_map.mp ht
    rw [String.toList_ofList]
    exact Text.forall_mem_hexNumeral hhex _
  cases host with
  | empty => exact fun _ hc => absurd hc List.not_mem_nil
  | domain name => exact hname name rfl
  | ipv4 address =>
    change ∀ c ∈ (ipv4Text address).toList, P c
    rw [ipv4Text, Text.join, String.toList_ofList]
    refine (Text.forall_mem_joinWith_iff (hsep "." (by decide))).mpr fun piece hp => ?_
    obtain ⟨text, ht, rfl⟩ := List.mem_map.mp hp
    obtain ⟨n, -, rfl⟩ := List.mem_map.mp ht
    exact fun c hc => hdigit c (Text.isDigit_of_mem_toString hc)
  | ipv6 pieces =>
    change ∀ c ∈ ("[" ++ ipv6Text pieces ++ "]").toList, P c
    rw [String.toList_append, String.toList_append, List.forall_mem_append, List.forall_mem_append]
    refine ⟨⟨hsep "[" (by decide), ?_⟩, hsep "]" (by decide)⟩
    rw [ipv6Text]
    split
    split
    · exact hpieces _
    · rw [String.toList_append, String.toList_append, List.forall_mem_append,
        List.forall_mem_append]
      exact ⟨⟨hpieces _, hsep "::" (by decide)⟩, hpieces _⟩

/-- Authorities are written in the characters of their parts and a few marks. -/
theorem Authority.forall_mem_text {P : Char → Prop} {a : Authority}
    (husername : ∀ c ∈ a.username.toList, P c) (hpassword : ∀ c ∈ a.password.toList, P c)
    (hhost : ∀ c ∈ a.host.text.toList, P c) (hmarks : ∀ c ∈ "@:".toList, P c)
    (hdigit : ∀ c, c.isDigit = true → P c) : ∀ c ∈ a.text.toList, P c := by
  have hcolon : ∀ c ∈ ":".toList, P c := fun c hc =>
    hmarks c ((by decide : ":".toList ⊆ "@:".toList) hc)
  have hat : ∀ c ∈ "@".toList, P c := fun c hc =>
    hmarks c ((by decide : "@".toList ⊆ "@:".toList) hc)
  rw [text, hostPortText, String.toList_append, String.toList_append, List.forall_mem_append,
    List.forall_mem_append]
  refine ⟨?_, hhost, ?_⟩
  · rw [credentialsText]
    split
    · exact fun _ hc => absurd hc List.not_mem_nil
    · rw [String.toList_append, String.toList_append, List.forall_mem_append,
        List.forall_mem_append]
      refine ⟨⟨husername, ?_⟩, hat⟩
      split
      · exact fun _ hc => absurd hc List.not_mem_nil
      · rw [String.toList_append, List.forall_mem_append]
        exact ⟨hcolon, hpassword⟩
  · rw [portText]
    split
    · rw [String.toList_append, List.forall_mem_append]
      exact ⟨hcolon, fun c hc => hdigit c (Text.isDigit_of_mem_toString hc)⟩
    · exact fun _ hc => absurd hc List.not_mem_nil

/-- Authorities in ASCII are written so. -/
theorem Authority.asciiFrom_text {a : Authority} (h : a.IsAscii) :
    AsciiFrom 0x21 a.text.toList := by
  have hdigit : ∀ c : Char, c.isDigit = true → 0x21 ≤ c.toNat ∧ c.toNat ≤ 0x7E := fun c hc =>
    (Text.asciiFrom_cons.mp (Text.asciiFrom_of_isDigit hc)).1
  have hhost : AsciiFrom 0x21 a.host.text.toList := by
    refine Host.forall_mem_text (fun name hname => ?_) (Text.asciiFrom_of_all (by decide)) hdigit
      fun n hn => (Text.asciiFrom_cons.mp (Text.asciiFrom_lowerHex hn)).1
    have hascii := h.host
    rw [hname] at hascii
    exact hascii
  exact forall_mem_text h.username h.password hhost (Text.asciiFrom_of_all (by decide)) hdigit

namespace Url

/-- Paths in ASCII are written so. -/
theorem Path.asciiFrom_text {path : Path} (h : path.IsAscii) : AsciiFrom 0x20 path.text.toList := by
  cases path with
  | rooted segments =>
    change AsciiFrom 0x20 (String.ofList _).toList
    rw [String.toList_ofList]
    refine Text.asciiFrom_flatMap fun segment hs => ?_
    rw [Text.asciiFrom_cons]
    exact ⟨by decide, (h segment hs).mono (by decide)⟩
  | rootless text => exact h

/-- A URL whose components are ASCII is written in ASCII from the bound of its path on. -/
theorem asciiFrom_text_of_path {low : Nat} (hlow : low ≤ 0x21) {u : Url} (h : u.IsAscii)
    (hpath : AsciiFrom low u.path.text.toList) : AsciiFrom low u.text.toList := by
  have hmark : ∀ {s : String}, s.toList.all (fun c => 0x21 ≤ c.toNat && c.toNat ≤ 0x7E) = true →
      AsciiFrom low s.toList := fun hs => (Text.asciiFrom_of_all hs).mono hlow
  rw [text, String.toList_append, String.toList_append, String.toList_append, String.toList_append]
  simp only [Text.asciiFrom_append]
  refine ⟨⟨⟨⟨h.scheme.mono hlow, hmark (by decide)⟩, ?_⟩, hpath⟩, ?_⟩
  · rw [authorityText]
    split
    · next a ha =>
      rw [String.toList_append, Text.asciiFrom_append]
      exact ⟨hmark (by decide), (Authority.asciiFrom_text (h.authority a ha)).mono hlow⟩
    · split
      · exact hmark (by decide)
      · exact Text.asciiFrom_nil
  · rw [tailText, String.toList_append, Text.asciiFrom_append]
    constructor
    · split
      · next query hq =>
        rw [String.toList_append, Text.asciiFrom_append]
        exact ⟨hmark (by decide), (h.query query hq).mono hlow⟩
      · exact Text.asciiFrom_nil
    · split
      · next fragment hf =>
        rw [String.toList_append, Text.asciiFrom_append]
        exact ⟨hmark (by decide), (h.fragment fragment hf).mono hlow⟩
      · exact Text.asciiFrom_nil

/-- A URL whose components are ASCII is written in printable ASCII. -/
theorem asciiFrom_text {u : Url} (h : u.IsAscii) : AsciiFrom 0x20 u.text.toList :=
  asciiFrom_text_of_path (by decide) h (Path.asciiFrom_text h.path)

end Url

end SignOn
