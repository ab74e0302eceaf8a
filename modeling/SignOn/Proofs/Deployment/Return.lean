import SignOn.Proofs.Deployment.RoundTrip
import SignOn.Proofs.Gate.Landing
import SignOn.Proofs.OAuth.Authorization

/-!
# Back to where the browser was going

A browser that is sent to the provider takes along where it was going, as the state in the query of
the authorization URL. That query reads back to the target as it was sent, however many escapes and
separators the target holds, and a callback with this state sends the browser there.
-/

namespace SignOn

namespace Text

/-- Whether a text ends in `rest` after the last place where `mark` stands in it. -/
structure EndsAfterLast (mark text rest : String) : Prop where
  stands : ∃ before, text = before ++ mark ++ rest
  last : ∀ before other, text = before ++ mark ++ other → rest.length ≤ other.length

/-- A mark stands nowhere later if what follows it does not hold its last character. -/
theorem endsAfterLast_of_not_mem {mark rest : String} {init : List Char} {c : Char}
    (hmark : mark.toList = init ++ [c]) (hrest : c ∉ rest.toList) (before : String) :
    EndsAfterLast mark (before ++ mark ++ rest) rest where
  stands := ⟨before, rfl⟩
  last := by
    intro before' other h
    have hlists : (before ++ mark).toList ++ rest.toList =
        (before' ++ mark).toList ++ other.toList := by
      rw [← String.toList_append, ← String.toList_append, h]
    rw [← String.length_toList, ← String.length_toList]
    rcases List.append_eq_append_iff.mp hlists with ⟨between, hlater, hsplit⟩ | ⟨between, -, hsplit⟩
    · -- the later mark would end inside of the rest
      rcases List.eq_nil_or_concat between with rfl | ⟨front, d, rfl⟩
      · simp [hsplit]
      · rw [String.toList_append, hmark, ← List.append_assoc, List.concat_eq_append,
          ← List.append_assoc] at hlater
        obtain rfl : c = d := List.singleton_inj.mp (List.append_inj_right' hlater rfl)
        exact absurd (by simp [hsplit]) hrest
    · simp [hsplit]

end Text

namespace OAuthClient

variable {c : OAuthClient} {origin : SiteOrigin} {url : String} {state : Option String}

/-- The query of an authorization URL follows the last occurrence of the path before it, and reads
back to the parameters. -/
theorem exists_query_of_authorizationUrl (h : c.authorizationUrl origin state = .ok url) :
    ∃ redirectUri query, c.redirectUri origin = .ok redirectUri ∧
      Text.EndsAfterLast authorizationPath (Http.encodeTarget url) query ∧
      Form.decode query = c.authorizationPairs redirectUri state := by
  cases hredirect : c.redirectUri origin with
  | error e =>
    rw [authorizationUrl, hredirect] at h
    cases h
  | ok redirectUri =>
    rw [authorizationUrl_eq hredirect] at h
    have hmark : '?' ∉ (c.authorizationQuery redirectUri state).toList :=
      List.forall_mem_ne'.mp <| forall_mem_queryText (by decide) (by decide)
        (fun s => List.forall_mem_ne'.mpr (Percent.not_mem_component s (by decide)))
        (c.component_authorizationPairs redirectUri state)
    have hlast : authorizationPath.toList = "/services/oauth2/authorize".toList ++ ['?'] := rfl
    refine ⟨redirectUri, _, rfl, ?_, c.decode_authorizationQuery redirectUri state⟩
    rw [← Except.ok.inj h, encodeTarget_authorizationUrl]
    exact Text.endsAfterLast_of_not_mem hlast hmark _

end OAuthClient

namespace Deployment

variable {d : Deployment} {v : Visit} {state : SharedState}

/-- Whether a visit is sent to the provider: it needs a context, has none, and the answer is a
redirect. -/
structure SentToLogin (d : Deployment) (v : Visit) (state : SharedState) : Prop where
  guarded : Gate.Guards d.gate d.site v.request
  stopped : ∀ context, ¬ d.Admits v state context
  status : (d.serve v state).response.status = 302

/-- Where such a visit is sent. -/
theorem redirectsTo_of_sentToLogin (h : d.SentToLogin v state) :
    ∃ url cookies, d.site.client.authorizationUrl (d.site.origin v.request.headers)
        (some (v.request.target.pathAndQuery.getD "/")) = .ok url ∧
      (d.serve v state).response.RedirectsTo url cookies := by
  obtain ⟨cookies, hsends⟩ : ∃ cookies, Gate.SendsToLogin d.site v.request cookies
      (d.serve v state).response :=
    Gate.sendsToLogin_serve v.occasion (d.inner v) { request := v.request } .outside state
      h.guarded fun context hl => h.stopped context ((d.admits_iff h.guarded).mpr hl)
  rw [Gate.SendsToLogin] at hsends
  split at hsends
  · next url hurl => exact ⟨url, cookies, hurl, hsends⟩
  · have hstatus := h.status
    rw [hsends] at hstatus
    cases hstatus

/-- A callback that sends the browser on has read the one state of its query. -/
private theorem state_of_redirected {settings : GateSettings} {site : Site} {occasion : Occasion}
    {request : Http.Request} {holder : Holder} {query p : String}
    (hquery : request.target.query = some query)
    (hstate : (Form.decode query).filter (·.1 = "state") = [("state", p)])
    (h302 : (Gate.callback settings site occasion request holder state).response.status = 302) :
    (Gate.callbackParameters request.target.query).state = some p := by
  have hsingle : Form.single? "state" (Form.decode query) = some (some p) := by
    rw [Form.single?, hstate]
  have hread : (Gate.callbackParameters request.target.query).state = some p ∨
      Gate.callbackParameters request.target.query = {} := by
    simp only [hquery, Gate.callbackParameters, Option.map_some, Option.getD_some, hsingle]
    split
    · next hpresent _ =>
      exact .inl (Option.some.inj hpresent).symm
    · exact .inr rfl
  rcases hread with hread | hnone
  · exact hread
  · rw [Gate.callback, hnone] at h302
    cases h302

/-- A login returns the browser to where it was going: the redirect to the provider carries the
target as its one state, and a callback with this one state, however it is encoded, leads to the
target. -/
theorem returns_after_login (d : Deployment) {p : String} {cs : List Char}
    (hp : p.toList = '/' :: cs) (hcs : cs.head? ≠ some '/') :
    (∀ v state, v.request.target.pathAndQuery = some p → d.SentToLogin v state →
      ∃ location query, (d.serve v state).response.headers.texts Http.locationField = [location] ∧
        Text.EndsAfterLast OAuthClient.authorizationPath location query ∧
        (Form.decode query).filter (·.1 = "state") = [("state", p)]) ∧
      (∀ v state query, d.CallsBack v → v.request.target.query = some query →
        (Form.decode query).filter (·.1 = "state") = [("state", p)] →
        (d.serve v state).response.status = 302 →
        (d.serve v state).response.headers.texts Http.locationField = [Http.encodeTarget p]) ∧
      (Text.AsciiFrom 0x21 p.toList → Http.encodeTarget p = p) := by
  refine ⟨?_, ?_, Http.encodeTarget_eq_self_iff.mpr⟩
  · intro v state htarget hsent
    obtain ⟨url, cookies, hurl, hredirects⟩ := redirectsTo_of_sentToLogin hsent
    obtain ⟨redirectUri, query, -, hends, hpairs⟩ :=
      OAuthClient.exists_query_of_authorizationUrl hurl
    refine ⟨_, query, hredirects.texts, hends, ?_⟩
    rw [hpairs, htarget]
    exact OAuthClient.states_authorizationPairs _ _ p
  · intro v state query hback hquery hstate h302
    rw [serve_of_callback hback.1 hback.2] at h302 ⊢
    rw [Gate.location_of_redirected h302, state_of_redirected hquery hstate h302,
      Gate.localTarget_of_slash hp hcs]

/-- A page whose target has separators, escapes and a letter beyond ASCII in its query. -/
def sampleTarget : String := "/find?q=a%26b+c&as=é="

/-- A visit to that page without cookies. -/
def sampleAsking : Visit :=
  { sampleVisit 0 "/find" none "" with
    request := {
      method := "GET"
      target := { path := "/find", query := some "q=a%26b+c&as=é=", pathAndQuery := sampleTarget }
      headers := .empty } }

/-- The visit with which the provider sends the browser back. -/
def sampleReturning : Visit :=
  sampleVisit 1 "/_auth" (some "state=/find%3Fq%3Da%2526b%2Bc%26as%3D%C3%A9%3D&code=good") ""

/-- A login that was asked for at that page leads back to it. -/
theorem returns_sample :
    (∃ location query, ((sample .session ⟨[]⟩).serve sampleAsking
          ⟨.create 10 0, { timeToLive := 0 }⟩).response.headers.texts Http.locationField =
            [location] ∧
        Text.EndsAfterLast OAuthClient.authorizationPath location query ∧
        (Form.decode query).filter (·.1 = "state") = [("state", sampleTarget)]) ∧
      ((sample .session ⟨[]⟩).serve sampleReturning
        ⟨.create 10 0, { timeToLive := 0 }⟩).response.headers.texts Http.locationField =
          [Http.encodeTarget sampleTarget] ∧
      Http.encodeTarget "/find?q=a%26b+c" = "/find?q=a%26b+c" := by
  have hp : sampleTarget.toList = '/' :: "find?q=a%26b+c&as=é=".toList := by decide +kernel
  have hp' : "/find?q=a%26b+c".toList = '/' :: "find?q=a%26b+c".toList := by decide +kernel
  have hguarded : Gate.Guards (sample .session ⟨[]⟩).gate (sample .session ⟨[]⟩).site
      sampleAsking.request := by decide
  have hsent : (sample .session ⟨[]⟩).SentToLogin sampleAsking
      ⟨.create 10 0, { timeToLive := 0 }⟩ := by
    refine ⟨hguarded, fun context hadmits => ?_, by decide +kernel⟩
    cases ((sample .session ⟨[]⟩).admits_iff hguarded).mp hadmits
  obtain ⟨hsends, hreturns, -⟩ :=
    returns_after_login (sample .session ⟨[]⟩) hp (by decide +kernel)
  refine ⟨hsends _ _ rfl hsent, hreturns _ _ _ ?_ rfl ?_ ?_, ?_⟩
  · decide +kernel
  · decide +kernel
  · decide +kernel
  · exact (returns_after_login (sample .session ⟨[]⟩) hp' (by decide +kernel)).2.2
      (Text.asciiFrom_of_all (by decide +kernel))

example : Http.encodeTarget sampleTarget = "/find?q=a%26b+c&as=%C3%A9=" := by decide +kernel

end Deployment

end SignOn
