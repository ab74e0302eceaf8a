import SignOn.Proofs.Deployment.Basic
import SignOn.Proofs.Storage.RoundTrip
import SignOn.Proofs.Url.Network

/-!
# Where a login leads

After a login the browser goes to the target that the state names. A state counts if it begins with
one slash, and what a browser makes of it decides whether it stays on the site: of all such states
only those with a backslash after the slash name a server of their own.
-/

namespace SignOn

namespace Http

variable {s : String} {c : Char} {cs : List Char}

/-- Visible characters are kept in a redirect target. -/
theorem toList_encodeTarget_cons (h : 0x21 ≤ c.toNat ∧ c.toNat ≤ 0x7E) (hs : s.toList = c :: cs) :
    (encodeTarget s).toList = c :: (encodeTarget (String.ofList cs)).toList := by
  have hsplit : s = String.ofList [c] ++ String.ofList cs := by
    rw [← String.toList_inj, hs]
    simp
  have hc : encodeTarget (String.ofList [c]) = String.ofList [c] :=
    encodeTarget_eq_self_iff.mpr (by simpa using h)
  rw [hsplit, encodeTarget_append, hc]
  simp

/-- No other character of a redirect target is written with one at its front. -/
theorem head?_encodeTarget (h : s.toList.head?.any Url.isAnySlash = false) :
    (encodeTarget s).toList.head?.any Url.isAnySlash = false := by
  rw [encodeTarget, String.toList_ofList]
  cases hs : s.toList with
  | nil => rfl
  | cons c cs =>
    have hc : Url.isAnySlash c = false := by
      rw [hs] at h
      exact h
    obtain ⟨b, bs, hbs⟩ := List.exists_cons_of_ne_nil (String.utf8EncodeChar_ne_nil (c := c))
    rw [List.flatMap_cons, hbs, List.flatMap_cons, Percent.encodeOctet]
    split
    · next hgraphic =>
      -- an octet that is kept is the character itself
      have hb := Percent.isGraphic_iff.mp hgraphic
      have hlow : b < 0x80 := UInt8.lt_iff_toNat_lt.mpr (by
        simp only [UInt8.reduceToNat]
        omega)
      rw [← Octets.eq_of_mem_utf8EncodeChar (hbs ▸ List.mem_cons_self) hlow, Char.ofNat_toNat]
      exact hc
    · rfl

end Http

namespace Gate

open Text (AsciiFrom)

variable {settings : GateSettings} {site : Site} {occasion : Occasion} {request : Http.Request}
  {holder : Holder} {state : SharedState}

/-- A callback that sends the browser on sends it to the target of its state. -/
theorem location_of_redirected
    (h : (callback settings site occasion request holder state).response.status = 302) :
    (callback settings site occasion request holder state).response.headers.texts
        Http.locationField =
      [Http.encodeTarget (localTarget (callbackParameters request.target.query).state)] := by
  cases completed_callback settings site occasion request holder state with
  | refused _ hstatus _ => exact absurd h hstatus
  | unwritten _ _ _ _ hstatus _ => exact absurd h hstatus
  | done context _ _ hsaved hresponse _ =>
    have hdiffer : ¬ Text.lower Cookie.setCookieField = Text.lower Http.locationField := by decide
    have hlocation : (saved settings site occasion request state context).cookies.octets
        Http.locationField = [] := by
      rw [saved, Storage.octets_save hsaved, if_neg hdiffer]
      rfl
    rw [hresponse]
    exact (Http.redirectsTo_redirect _ hlocation).texts

/-- A state that begins with one slash is where the browser goes. -/
theorem localTarget_of_slash {s : String} {cs : List Char} (hs : s.toList = '/' :: cs)
    (hcs : cs.head? ≠ some '/') : localTarget (some s) = s := by
  have hno : "//".toList.isPrefixOf ('/' :: cs) = false := by
    cases cs with
    | nil => rfl
    | cons d rest =>
      have hd : ('/' == d) = false := beq_false_of_ne fun h => hcs (h ▸ rfl)
      change ('/' == '/' && ('/' == d && true)) = false
      rw [hd]
      rfl
  have hyes : "/".toList.isPrefixOf ('/' :: cs) = true := rfl
  simp only [localTarget, hs, hyes, hno, Bool.not_false, Bool.and_self, if_true]

/-- Every other state leads to the root. -/
theorem localTarget_of_foreign {state : Option String}
    (h : ∀ s cs, state = some s → s.toList = '/' :: cs → cs.head? = some '/') :
    localTarget state = "/" := by
  cases state with
  | none => rfl
  | some s =>
    have hlocal : ("/".toList.isPrefixOf s.toList && !"//".toList.isPrefixOf s.toList) = false := by
      cases hs : s.toList with
      | nil => rfl
      | cons c cs =>
        by_cases hc : c = '/'
        · subst hc
          obtain ⟨rest, rfl⟩ := List.head?_eq_some_iff.mp (h s cs rfl hs)
          rfl
        · have hne : ('/' == c) = false := beq_false_of_ne (Ne.symm hc)
          change (('/' == c && true) && _) = false
          rw [hne]
          rfl
    simp only [localTarget, hlocal, Bool.false_eq_true, if_false]

/-- A target is a path of one slash; only a backslash that a state names may follow. -/
theorem localTarget_cases (state : Option String) :
    (∃ rest, state = some ("/\\" ++ rest) ∧ localTarget state = "/\\" ++ rest) ∨
      (∀ rest, state ≠ some ("/\\" ++ rest)) ∧
        ∃ cs, (localTarget state).toList = '/' :: cs ∧ cs.head?.any Url.isAnySlash = false := by
  by_cases h : ∃ s cs, state = some s ∧ s.toList = '/' :: cs ∧ cs.head? ≠ some '/'
  · obtain ⟨s, cs, rfl, hs, hcs⟩ := h
    rw [localTarget_of_slash hs hcs]
    by_cases hback : cs.head? = some '\\'
    · obtain ⟨rest, rfl⟩ := List.head?_eq_some_iff.mp hback
      have hrest : s = "/\\" ++ String.ofList rest := by
        rw [← String.toList_inj, hs, String.toList_append]
        simp
      exact .inl ⟨String.ofList rest, congrArg some hrest, hrest⟩
    · refine .inr ⟨fun rest hrest => ?_, cs, hs, ?_⟩
      · rw [Option.some.inj hrest, String.toList_append] at hs
        exact hback (by rw [← (List.cons.inj hs).2]; rfl)
      · cases cs with
        | nil => rfl
        | cons d rest =>
          have hd : d ≠ '/' ∧ d ≠ '\\' := ⟨fun h => hcs (h ▸ rfl), fun h => hback (h ▸ rfl)⟩
          simp [Url.isAnySlash, hd]
  · have hroot : localTarget state = "/" := by
      refine localTarget_of_foreign fun s cs hstate hs => ?_
      by_contra hcs
      exact h ⟨s, cs, hstate, hs, hcs⟩
    rw [hroot]
    refine .inr ⟨fun rest hrest => h ⟨_, '\\' :: rest.toList, hrest, ?_, by simp⟩, [], rfl, rfl⟩
    rw [String.toList_append]
    rfl

/-- A target of one slash with no slash or backslash after it stays where it is read. -/
theorem sharesOrigin_of_slash {base : Url} (hk : base.kind = .network) {segments : List String}
    (hpath : base.path = .rooted segments) {target : String} {cs : List Char}
    (htarget : target.toList = '/' :: cs) (hcs : cs.head?.any Url.isAnySlash = false) :
    ∃ url, base.join (Http.encodeTarget target) = .ok url ∧ url.SharesOrigin base := by
  have henc := Http.toList_encodeTarget_cons (c := '/') (by decide) htarget
  have hhead : (Http.encodeTarget (String.ofList cs)).toList.head?.any Url.isAnySlash = false :=
    Http.head?_encodeTarget (by rwa [String.toList_ofList])
  rw [Url.join_of_slash hk hpath henc (Http.asciiFrom_encodeTarget _),
    Url.parseRelative_of_slash hhead]
  exact ⟨_, rfl, Url.sharesOrigin_assemble base _ _⟩

/-- A backslash after the slash of a target reads as a slash too: what follows names a server. -/
theorem join_of_backslash {base : Url} (hk : base.kind = .network) {segments : List String}
    (hpath : base.path = .rooted segments) (rest : String) :
    base.join (Http.encodeTarget ("/\\" ++ rest)) =
      Url.parse (base.scheme ++ "://" ++ Http.encodeTarget rest) := by
  have hvisible := Http.asciiFrom_encodeTarget rest
  have hslash : ("/\\" ++ rest).toList = '/' :: '\\' :: rest.toList := by simp
  have hbackslash : (String.ofList ('\\' :: rest.toList)).toList = '\\' :: rest.toList :=
    String.toList_ofList
  have henc : (Http.encodeTarget ("/\\" ++ rest)).toList =
      '/' :: '\\' :: (Http.encodeTarget rest).toList := by
    rw [Http.toList_encodeTarget_cons (by decide) hslash,
      Http.toList_encodeTarget_cons (by decide) hbackslash, String.ofList_toList]
  have htext : base.scheme ++ "://" ++ Http.encodeTarget rest =
      base.scheme ++ ":" ++ String.ofList ('/' :: '/' :: (Http.encodeTarget rest).toList) := by
    rw [← String.toList_inj]
    simp
  rw [Url.join_of_slash hk hpath henc (Text.asciiFrom_cons.mpr ⟨by decide, hvisible⟩),
    Url.parseRelative_of_backslash, htext, Url.parse_of_network hk
      (Text.asciiFrom_cons.mpr ⟨by decide, Text.asciiFrom_cons.mpr ⟨by decide, hvisible⟩⟩),
    List.dropWhile_cons_of_pos (by decide), List.dropWhile_cons_of_pos (by decide)]

/-- After a login a browser stays on the site, unless the state has a backslash after its slash:
then it goes to the server that the rest of the state names. -/
theorem lands_on_site_iff {origin : SiteOrigin} {base : Url} (hbase : origin.base = .ok base)
    (hk : base.kind = .network)
    (h302 : (callback settings site occasion request holder state).response.status = 302) :
    ∃ location, (callback settings site occasion request holder state).response.headers.texts
        Http.locationField = [location] ∧
      ((∃ url, base.join location = .ok url ∧ url.SharesOrigin base) ↔
        ∀ rest, (callbackParameters request.target.query).state = some ("/\\" ++ rest) →
          ∃ url, Url.parse (base.scheme ++ "://" ++ Http.encodeTarget rest) = .ok url ∧
            url.SharesOrigin base) := by
  obtain ⟨segments, hpath⟩ := Url.rooted_of_parse (SiteOrigin.parse_of_base hbase) hk
  refine ⟨_, location_of_redirected h302, ?_⟩
  generalize (callbackParameters request.target.query).state = asked
  rcases localTarget_cases asked with ⟨rest, rfl, htarget⟩ | ⟨hplain, cs, htarget, hcs⟩
  · rw [htarget, join_of_backslash hk hpath]
    constructor
    · intro h other hother
      have hsame : rest = other := by simpa [← String.toList_inj] using hother
      rwa [← hsame]
    · exact fun h => h rest rfl
  · exact iff_of_true (sharesOrigin_of_slash hk hpath htarget hcs) fun rest hrest =>
      absurd hrest (hplain rest)

/-- A callback of the sample deployment, at the host `app.example.com`. -/
def sampleCallback (query : String) : Served :=
  callback { storageMethod := .session } (Deployment.sample .session ⟨[]⟩).site
    ⟨0, ⟨.replicate 12 0, .replicate 16 0⟩, Deployment.sampleBackend⟩
    { method := "GET"
      target := { path := "/_auth", query := some query, pathAndQuery := some ("/_auth?" ++ query) }
      headers := .single "host" (Http.FieldValue.ofText? "app.example.com") }
    .outside ⟨.create 10 0, { timeToLive := 0 }⟩

/-- The URL of that host. -/
def sampleBase : Url where
  scheme := "https"
  authority := some { host := .domain "app.example.com" }
  path := .rooted [""]

/-- The URL of that host is that of its origin. -/
theorem base_sampleBase : (SiteOrigin.mk "https" "app.example.com").base = .ok sampleBase := by
  have hparse : Url.parse "https://app.example.com/" = .ok sampleBase := by decide +kernel
  exact congrArg (Except.mapError Error.ofParseError) hparse

/-- A login that was asked for at a page ends on the site. -/
theorem lands_on_site_sample :
    ∃ location, (sampleCallback "code=1&state=%2Fhome").response.headers.texts
        Http.locationField = [location] ∧
      ((∃ url, sampleBase.join location = .ok url ∧ url.SharesOrigin sampleBase) ↔
        ∀ rest, (callbackParameters (some "code=1&state=%2Fhome")).state = some ("/\\" ++ rest) →
          ∃ url, Url.parse (sampleBase.scheme ++ "://" ++ Http.encodeTarget rest) = .ok url ∧
            url.SharesOrigin sampleBase) :=
  lands_on_site_iff base_sampleBase (by decide) (by decide +kernel)

/-- A login whose state has a backslash after its slash ends at another host. -/
theorem leaves_site_sample :
    (sampleCallback "code=1&state=%2F%5Cevil.example.com%2F").response.status = 302 ∧
      ∃ location url, (sampleCallback
          "code=1&state=%2F%5Cevil.example.com%2F").response.headers.texts
            Http.locationField = [location] ∧
        sampleBase.join location = .ok url ∧ ¬ url.SharesOrigin sampleBase := by
  have h302 : (sampleCallback "code=1&state=%2F%5Cevil.example.com%2F").response.status = 302 := by
    decide +kernel
  refine ⟨h302, _, {
    scheme := "https"
    authority := some { host := .domain "evil.example.com" }
    path := .rooted [""] }, location_of_redirected h302, ?_, ?_⟩
  · decide +kernel
  · decide +kernel

end Gate

end SignOn
