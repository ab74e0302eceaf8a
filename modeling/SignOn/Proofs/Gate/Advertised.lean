import SignOn.Proofs.Deployment.RoundTrip
import SignOn.Proofs.Gate.Landing
import SignOn.Proofs.Url.Provenance

/-!
# The advertised callback

The provider is told to send browsers back to the URL that the callback path stands for at the
site's origin; the gate compares the path of a request with the callback path as it is configured.
The two agree exactly for callback paths in the form that reading gives a path.
-/

namespace SignOn

namespace Url

open Text (AsciiFrom)

/-- A path in the form that reading gives it: it begins with one slash, nothing in it is escaped, and
no segment of it stays in place or goes up. -/
structure IsPlainPath (path : String) : Prop where
  rooted : path.toList.head? = some '/'
  single : path.toList[1]? ≠ some '/'
  chars : ∀ c ∈ path.toList, IsPathChar c
  dots : ∀ segment ∈ Text.splitOn '/' (path.toList.drop 1), isDots segment = false

instance (path : String) : Decidable (IsPlainPath path) :=
  decidable_of_iff (path.toList.head? = some '/' ∧ path.toList[1]? ≠ some '/' ∧
      path.toList.all (IsPathChar ·) = true ∧
      (Text.splitOn '/' (path.toList.drop 1)).all (!isDots ·) = true) (by
    rw [List.all_eq_true, List.all_eq_true]
    simp only [decide_eq_true_eq, Bool.not_eq_true']
    exact ⟨fun ⟨hr, hs, hc, hd⟩ => ⟨hr, hs, hc, hd⟩, fun h => ⟨h.rooted, h.single, h.chars, h.dots⟩⟩)

variable {scheme : String} {cs : List Char} {u base : Url}

/-- A path by itself is no URL. -/
theorem parse_of_slash {s : String} (hs : s.toList = '/' :: cs) (hcs : AsciiFrom 0x21 cs) :
    parse s = .error .relativeWithoutBase := by
  have hall : AsciiFrom 0x21 ('/' :: cs) := Text.asciiFrom_cons.mpr ⟨by decide, hcs⟩
  have hscheme : scheme? ('/' :: cs) = none := rfl
  rw [parse, parseFrom, clipped_of_visible (by rwa [hs]), hs]
  simp only [withoutBreaks_of_visible hall, hscheme, parseWithoutScheme]

/-- A plain path is read at a URL of a network scheme as it is. -/
theorem path_text_of_plain (hk : base.kind = .network) {segments : List String}
    (hpath : base.path = .rooted segments) {path : String} (h : IsPlainPath path)
    (hu : base.join path = .ok u) : u.path.text = path := by
  obtain ⟨cs, hcs⟩ := List.head?_eq_some_iff.mp h.rooted
  obtain ⟨hrooted, hsingle, hchars, hdots⟩ := h
  rw [hcs] at hsingle hchars hdots
  have hchars' : ∀ c ∈ cs, IsPathChar c := fun c hc => hchars c (List.mem_cons_of_mem _ hc)
  have hhead := head?_any_isAnySlash hchars' (by rwa [List.head?_eq_getElem?])
  rw [join_of_slash hk hpath hcs (asciiFrom_of_isPathChar hchars'),
    parseRelative_of_slash hhead] at hu
  obtain rfl := Except.ok.inj hu
  change (Path.rooted (follow base.kind [] (cutTail cs).1)).text = path
  rw [← String.toList_inj, toList_text_rooted, fst_cutTail_of_isPathChar hchars', hk,
    pathChars_follow hchars' hdots, hcs]

/-- A path that is read at a network URL gives no longer one, and one as long only if it is plain. -/
theorem plain_of_length_le (hb : base.IsNetwork) {path : String} (hcs : path.toList = '/' :: cs)
    (hchars : ∀ c ∈ cs, IsPathChar c) (hu : base.join path = .ok u)
    (hlength : path.toList.length ≤ u.path.text.toList.length) : IsPlainPath path := by
  obtain ⟨segments, hpath, -⟩ := hb.path
  rw [join_of_slash hb.kind hpath hcs (asciiFrom_of_isPathChar hchars)] at hu
  rw [hcs, List.length_cons] at hlength
  by_cases hsingle : cs.head? = some '/'
  · -- after two slashes a server is read, which takes characters from the path
    obtain ⟨after, rfl⟩ := List.head?_eq_some_iff.mp hsingle
    have hrest : ∀ c ∈ after, IsPathChar c := fun c hc => hchars c (List.mem_cons_of_mem _ hc)
    have hafter := length_of_parseAfterSlashes hb.kind hrest hu
    rw [List.length_cons] at hlength
    omega
  · rw [parseRelative_of_slash (head?_any_isAnySlash hchars hsingle)] at hu
    obtain rfl := Except.ok.inj hu
    change _ ≤ (Path.rooted (follow base.kind [] (cutTail cs).1)).text.toList.length at hlength
    rw [toList_text_rooted, fst_cutTail_of_isPathChar hchars, hb.kind] at hlength
    have hfollow := length_follow_le hchars
    have hdots : (Text.splitOn '/' cs).countP (isDots ·) = 0 := by omega
    refine ⟨by rw [hcs]; rfl, ?_, ?_, ?_⟩
    · rw [hcs, List.getElem?_cons_succ, ← List.head?_eq_getElem?]
      exact hsingle
    · rw [hcs]
      exact List.forall_mem_cons.mpr ⟨by decide, hchars⟩
    · rw [hcs]
      intro segment hs
      exact Bool.eq_false_iff.mpr (List.countP_eq_zero.mp hdots segment hs)

end Url

namespace SiteOrigin

/-- An absolute target stays, and any other is read at the origin. -/
theorem of_absolute {origin : SiteOrigin} {target r : String} (h : origin.absolute target = .ok r) :
    (∃ u, Url.parse target = .ok u ∧ r = target) ∨
      ∃ e base u, Url.parse target = .error e ∧ origin.base = .ok base ∧
        base.join target = .ok u ∧ r = u.text := by
  unfold absolute at h
  split at h
  · next u hu => exact .inl ⟨u, hu, (Except.ok.inj h).symm⟩
  · next e he =>
    split at h
    · cases h
    next base hbase =>
    split at h
    · cases h
    next u hu => exact .inr ⟨e, base, u, he, hbase, hu, (Except.ok.inj h).symm⟩

/-- The path of an advertised URL is the configured one exactly if that is plain. -/
theorem path_text_eq_iff {origin : SiteOrigin} {u : Url} {target r : String}
    (hr : origin.absolute target = .ok r) (hu : Url.parse r = .ok u) (huk : u.kind = .network) :
    u.path.text = target ↔ Url.IsPlainPath target := by
  obtain ⟨ps, hps, hkept⟩ := (Url.isNetwork_of_parse hu huk).path_text
  rcases of_absolute hr with ⟨w, hw, rfl⟩ | ⟨e, base, url, hparse, hbase, hurl, rfl⟩
  · -- a target that is a URL by itself does not begin with a slash
    have hno : ∀ cs, r.toList = '/' :: cs → ¬ ∀ c ∈ cs, Url.IsPathChar c := by
      intro cs hcs hchars
      rw [Url.parse_of_slash hcs (Url.asciiFrom_of_isPathChar hchars)] at hw
      cases hw
    refine iff_of_false (fun h => ?_) fun h => ?_
    · exact hno ps (h ▸ hps) hkept
    · obtain ⟨cs, hcs⟩ := List.head?_eq_some_iff.mp h.rooted
      exact hno cs hcs fun c hc => h.chars c (hcs ▸ List.mem_cons_of_mem _ hc)
  · have hread : url.IsRead := .join (.parse (parse_of_base hbase)) hurl
    -- reading the advertised text keeps the scheme, so that the origin has a network scheme too
    have hurlk : url.kind = .network := by
      rwa [Url.kind, ← Url.scheme_of_parse_text hread.isSchemeWord hu]
    obtain ⟨hk, part, hpart⟩ := Url.of_join hparse hurl hurlk
    have hb := Url.isNetwork_of_parse (parse_of_base hbase) hk
    obtain ⟨cs, hcs, hchars, hpath⟩ :=
      Url.path_of_reread (Url.isNetwork_of_parseRelative hb hpart) hread.isAscii hu
    constructor
    · intro h
      -- reading twice makes nothing longer, so the target has lost nothing on the way
      have hfollow := Url.length_follow_le hchars
      have hlength : u.path.text.toList.length ≤ url.path.text.toList.length := by
        rw [hpath, Url.toList_text_rooted, hcs, List.length_cons]
        omega
      subst h
      exact Url.plain_of_length_le hb hps hkept hurl hlength
    · intro h
      obtain ⟨segments, hsegments, -⟩ := hb.path
      have hfirst := Url.path_text_of_plain hb.kind hsegments h hurl
      rw [hfirst] at hcs
      have hdots := h.dots
      rw [hcs, List.drop_one, List.tail_cons] at hdots
      rw [← String.toList_inj, hpath, Url.toList_text_rooted, Url.pathChars_follow hchars hdots, hcs]

end SiteOrigin

namespace Http.Target

/-- A path before a query is the path of the request. -/
theorem path_ofText {path : String} {cs : List Char} (hpath : path.toList = '/' :: cs)
    (hcs : ∀ c ∈ cs, Url.IsPathChar c) (query : String) :
    (ofText (path ++ "?" ++ query)).path = path := by
  have hchars : ∀ c ∈ '/' :: cs, Url.IsPathChar c := List.forall_mem_cons.mpr ⟨by decide, hcs⟩
  have hlist : (path ++ "?" ++ query).toList = '/' :: (cs ++ '?' :: query.toList) := by
    simp [hpath]
  have hsent : ('/' :: (cs ++ '?' :: query.toList)).takeWhile (· ≠ '#') =
      '/' :: cs ++ '?' :: query.toList.takeWhile (· ≠ '#') := by
    rw [← List.cons_append, List.takeWhile_append_of_pos fun c hc =>
      decide_eq_true (hchars c hc).facts.2.2.1, List.takeWhile_cons_of_pos (by decide)]
  have hcut : Text.cutAt '?' ('/' :: cs ++ '?' :: query.toList.takeWhile (· ≠ '#')) =
      some ('/' :: cs, query.toList.takeWhile (· ≠ '#')) :=
    Text.cutAt_append_cons (fun hmem => (hchars _ hmem).facts.2.1 rfl) _
  rw [ofText, hlist]
  simp only [ofPathAndQuery, hsent, hcut, List.cons_ne_nil, if_false]
  rw [← hpath, String.ofList_toList]

end Http.Target

namespace Deployment

/-- A browser that the provider sends back to the advertised URL, one of a network scheme, ends its
login if the callback path is plain; with any other callback path the gate takes it for a request
that needs a context. -/
theorem answers_advertised (d : Deployment) {origin : SiteOrigin} {u : Url} {r : String}
    (hr : d.site.client.redirectUri origin = .ok r) (hu : Url.parse r = .ok u)
    (hk : u.kind = .network) {v : Visit} {parameters : String}
    (htarget : v.request.target =
      .ofText (u.path.text ++ "?" ++ (u.query.elim "" (· ++ "&") ++ parameters)))
    (hx : v.request.target.path ∉ d.gate.excludedPaths) :
    (Url.IsPlainPath d.site.client.callbackPath → ∀ state, d.serve v state =
        Gate.callback d.gate d.site v.occasion v.request .outside state) ∧
      (¬ Url.IsPlainPath d.site.client.callbackPath → Gate.Guards d.gate d.site v.request) := by
  have hiff := SiteOrigin.path_text_eq_iff hr hu hk
  obtain ⟨cs, hcs, hchars⟩ := (Url.isNetwork_of_parse hu hk).path_text
  have hpath : v.request.target.path = u.path.text := by
    rw [htarget, Http.Target.path_ofText hcs hchars]
  constructor
  · intro hplain state
    exact serve_of_callback hx (hpath.trans (hiff.mpr hplain))
  · intro hplain
    exact ⟨hx, fun h => hplain (hiff.mp (hpath.symm.trans h))⟩

/-- The usual callback path is plain. -/
example : Url.IsPlainPath defaultCallbackPath := by decide

/-- A deployment whose callback path is a given text. -/
def sampleCallbackAt (path : String) : Deployment :=
  { sample .session ⟨[]⟩ with
    site := { client := { key := "key", callbackPath := path }, cipher := ⟨[]⟩ } }

/-- A browser that comes back from the provider to the path `/_auth` of the sample host. -/
def sampleReturn : Visit where
  request := {
    method := "GET"
    target := .ofText "/_auth?code=1&state=%2Fhome"
    headers := .single "host" (Http.FieldValue.ofText? "app.example.com") }
  occasion := { now := 0, fresh := ⟨.replicate 12 0, .replicate 16 0⟩, backend := sampleBackend }
  page _ holder := ({ status := 200 }, holder)

/-- The URL that it comes back to. -/
def sampleCallbackUrl : Url := { Gate.sampleBase with path := .rooted ["_auth"] }

/-- The URL is read from its text. -/
theorem parse_sampleCallbackUrl :
    Url.parse "https://app.example.com/_auth" = .ok sampleCallbackUrl := by
  decide +kernel

/-- It is what the sample host advertises for a path that leads to it. -/
theorem absolute_sampleCallbackUrl {path : String}
    (hparse : Url.parse path = .error .relativeWithoutBase)
    (hjoin : Gate.sampleBase.join path = .ok sampleCallbackUrl) :
    (SiteOrigin.mk "https" "app.example.com").absolute path =
      .ok "https://app.example.com/_auth" := by
  rw [SiteOrigin.absolute, hparse, Gate.base_sampleBase]
  simp only [hjoin]
  rfl

/-- The callback path `/_auth` is plain, and the login ends there. -/
theorem answers_advertised_sample :
    (Url.IsPlainPath "/_auth" → ∀ state, (sampleCallbackAt "/_auth").serve sampleReturn state =
        Gate.callback (sampleCallbackAt "/_auth").gate (sampleCallbackAt "/_auth").site
          sampleReturn.occasion sampleReturn.request .outside state) ∧
      (¬ Url.IsPlainPath "/_auth" →
        Gate.Guards (sampleCallbackAt "/_auth").gate (sampleCallbackAt "/_auth").site
          sampleReturn.request) := by
  have htarget : sampleReturn.request.target = .ofText (sampleCallbackUrl.path.text ++ "?" ++
      (sampleCallbackUrl.query.elim "" (· ++ "&") ++ "code=1&state=%2Fhome")) := by decide +kernel
  exact answers_advertised (sampleCallbackAt "/_auth")
    (absolute_sampleCallbackUrl (by decide +kernel) (by decide +kernel)) parse_sampleCallbackUrl
    (by decide) htarget (by decide +kernel)

/-- The callback path `_auth` is advertised as the same URL, but there another login begins. -/
theorem restarts_login_sample :
    (sampleCallbackAt "_auth").site.client.redirectUri (.mk "https" "app.example.com") =
        .ok "https://app.example.com/_auth" ∧
      sampleReturn.request.target.path ∉ (sampleCallbackAt "_auth").gate.excludedPaths ∧
      sampleReturn.request.target =
        .ofText (sampleCallbackUrl.path.text ++ "?code=1&state=%2Fhome") ∧
      ((sampleCallbackAt "_auth").serve sampleReturn ⟨.create 10 0, { timeToLive := 0 }⟩).calls =
        [] ∧
      ((sampleCallbackAt "_auth").serve sampleReturn
          ⟨.create 10 0, { timeToLive := 0 }⟩).response =
        Gate.loginRedirect (sampleCallbackAt "_auth").site sampleReturn.request .empty := by
  have hg : Gate.Guards (sampleCallbackAt "_auth").gate (sampleCallbackAt "_auth").site
      sampleReturn.request := by decide +kernel
  have hl : (Gate.lookUp (sampleCallbackAt "_auth").gate (sampleCallbackAt "_auth").site
      sampleReturn.occasion sampleReturn.request ⟨.create 10 0, { timeToLive := 0 }⟩).1 =
        .ok none := Storage.load_of_not_presented rfl (by decide +kernel)
  rw [serve_of_absent hg hl]
  exact ⟨absolute_sampleCallbackUrl (by decide +kernel) (by decide +kernel), hg.1,
    by decide +kernel, rfl, rfl⟩

end Deployment

end SignOn
