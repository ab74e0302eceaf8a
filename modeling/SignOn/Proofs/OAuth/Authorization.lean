import SignOn.Proofs.Deployment.Basic
import SignOn.Proofs.Encoding.Form

/-!
# Authorization requests

The URL that asks the provider to authorize a user is made of texts that the application does not
choose alone: the key of the client, its scopes, the URI to come back to and the page that the
browser was going to. Whatever they hold, each of them is read as the value of its own parameter,
there are no other parameters, and requests that differ in one of them have different queries
(`asks_exactly`).
-/

namespace SignOn

open Text (AsciiFrom)

namespace OAuthClient

variable {c other : OAuthClient} {origin : SiteOrigin} {redirectUri otherUri : String}
  {state otherState : Option String}

/-! ## Parameters -/

/-- The names of the parameters of an authorization request need no encoding. -/
theorem component_authorizationPairs (c : OAuthClient) (redirectUri : String)
    (state : Option String) :
    ∀ pair ∈ c.authorizationPairs redirectUri state, Percent.component pair.1 = pair.1 := by
  have hall : ∀ name ∈ ["response_type", "client_id", "redirect_uri", "scope", "state"],
      Percent.component name = name := by decide +kernel
  have hnames : ∀ pair ∈ c.authorizationPairs redirectUri state,
      pair.1 ∈ ["response_type", "client_id", "redirect_uri", "scope", "state"] := by
    intro pair hpair
    simp only [authorizationPairs, List.mem_append] at hpair
    rcases hpair with (hpair | hpair) | hpair
    · simp only [List.mem_cons, List.not_mem_nil, or_false] at hpair
      rcases hpair with rfl | rfl | rfl <;> simp
    · split at hpair
      · cases hpair
      · simp [List.mem_singleton.mp hpair]
    · obtain ⟨p, -, rfl⟩ := Option.map_eq_some_iff.mp (Option.mem_toList.mp hpair)
      simp
  exact fun pair hpair => hall _ (hnames pair hpair)

/-- Of these parameters only the state has the name of one. -/
theorem states_authorizationPairs (c : OAuthClient) (redirectUri p : String) :
    (c.authorizationPairs redirectUri (some p)).filter (·.1 = "state") = [("state", p)] := by
  rw [authorizationPairs]
  split
  · simp
  · simp

/-- What is asked for can be looked up in them. -/
theorem lookup_authorizationPairs (c : OAuthClient) (redirectUri : String)
    (state : Option String) :
    (c.authorizationPairs redirectUri state).lookup "client_id" = some c.key ∧
      (c.authorizationPairs redirectUri state).lookup "redirect_uri" = some redirectUri ∧
      ((c.authorizationPairs redirectUri state).lookup "scope").getD "" = Text.join " " c.scopes ∧
      (c.authorizationPairs redirectUri state).lookup "state" = state := by
  rw [authorizationPairs]
  cases state with
  | none =>
    split
    · next hnone => exact ⟨rfl, rfl, hnone.symm, rfl⟩
    · exact ⟨rfl, rfl, rfl, rfl⟩
  | some p =>
    split
    · next hnone => exact ⟨rfl, rfl, hnone.symm, rfl⟩
    · exact ⟨rfl, rfl, rfl, rfl⟩

/-- Parameters are the same only if the same is asked for. -/
theorem authorizationPairs_inj :
    c.authorizationPairs redirectUri state = other.authorizationPairs otherUri otherState ↔
      c.key = other.key ∧ redirectUri = otherUri ∧
        Text.join " " c.scopes = Text.join " " other.scopes ∧ state = otherState := by
  constructor
  · intro h
    obtain ⟨hkey, huri, hscopes, hstate⟩ := c.lookup_authorizationPairs redirectUri state
    obtain ⟨hkey', huri', hscopes', hstate'⟩ := other.lookup_authorizationPairs otherUri otherState
    rw [h] at hkey huri hscopes hstate
    exact ⟨Option.some.inj (hkey.symm.trans hkey'), Option.some.inj (huri.symm.trans huri'),
      hscopes.symm.trans hscopes', hstate.symm.trans hstate'⟩
  · rintro ⟨hkey, rfl, hscopes, rfl⟩
    rw [authorizationPairs, authorizationPairs, hkey, hscopes]

/-! ## Queries -/

/-- The query of an authorization request. -/
def authorizationQuery (c : OAuthClient) (redirectUri : String) (state : Option String) : String :=
  queryText (c.authorizationPairs redirectUri state)

/-- It reads back to the parameters. -/
theorem decode_authorizationQuery (c : OAuthClient) (redirectUri : String)
    (state : Option String) :
    Form.decode (c.authorizationQuery redirectUri state) = c.authorizationPairs redirectUri state :=
  decode_queryText (c.component_authorizationPairs redirectUri state)

/-- It is visible. -/
theorem asciiFrom_authorizationQuery (c : OAuthClient) (redirectUri : String)
    (state : Option String) :
    AsciiFrom 0x21 (c.authorizationQuery redirectUri state).toList :=
  forall_mem_queryText (by decide) (by decide) Percent.asciiFrom_component
    (c.component_authorizationPairs redirectUri state)

/-- Queries are the same only if the same is asked for. -/
theorem authorizationQuery_inj :
    c.authorizationQuery redirectUri state = other.authorizationQuery otherUri otherState ↔
      c.key = other.key ∧ redirectUri = otherUri ∧
        Text.join " " c.scopes = Text.join " " other.scopes ∧ state = otherState := by
  rw [← authorizationPairs_inj]
  constructor
  · intro h
    have hpairs := congrArg Form.decode h
    rwa [decode_authorizationQuery, decode_authorizationQuery] at hpairs
  · exact congrArg queryText

/-- The URL of an authorization request is made of the login endpoint, the path and the query. -/
theorem authorizationUrl_eq (h : c.redirectUri origin = .ok redirectUri) :
    c.authorizationUrl origin state =
      .ok (c.loginUrl ++ authorizationPath ++ c.authorizationQuery redirectUri state) := by
  rw [authorizationUrl, h]
  rfl

/-- In a header field only the login endpoint can look different. -/
theorem encodeTarget_authorizationUrl (c : OAuthClient) (redirectUri : String)
    (state : Option String) :
    Http.encodeTarget (c.loginUrl ++ authorizationPath ++ c.authorizationQuery redirectUri state) =
      Http.encodeTarget c.loginUrl ++ authorizationPath ++
        c.authorizationQuery redirectUri state := by
  have hpath : AsciiFrom 0x21 authorizationPath.toList := Text.asciiFrom_of_all (by decide)
  rw [Http.encodeTarget_append, Http.encodeTarget_append, Http.encodeTarget_eq_self_iff.mpr hpath,
    Http.encodeTarget_eq_self_iff.mpr (c.asciiFrom_authorizationQuery redirectUri state)]

end OAuthClient

namespace Gate

/-- Whether a response is what the gate of a site answers to a request at an origin that needs a
context, has none and is for a given target. -/
def TurnsAway (site : Site) (origin : SiteOrigin) (target : String) (response : Http.Response) :
    Prop :=
  ∃ settings occasion inner delivery holder state,
    site.origin delivery.request.headers = origin ∧
    delivery.request.target.pathAndQuery.getD "/" = target ∧
    Guards settings site delivery.request ∧
    (∀ context, (lookUp settings site occasion delivery.request state).1 ≠ .ok (some context)) ∧
    response = (serve settings site occasion inner delivery holder state).response

/-- Where such an answer leads if there is an authorization URL. -/
theorem location_of_turnsAway {site : Site} {origin : SiteOrigin} {target url : String}
    {response : Http.Response}
    (hurl : site.client.authorizationUrl origin (some target) = .ok url)
    (h : TurnsAway site origin target response) :
    response.headers.texts Http.locationField = [Http.encodeTarget url] := by
  obtain ⟨settings, occasion, inner, delivery, holder, state, rfl, rfl, hguarded, hstopped, rfl⟩ :=
    h
  obtain ⟨cookies, hsends⟩ :=
    sendsToLogin_serve occasion inner delivery holder state hguarded hstopped
  rw [SendsToLogin, hurl] at hsends
  exact hsends.texts

end Gate

namespace OAuthClient

/-- What the URL of an authorization request has to be for a client, a URI to come back to and a
state. -/
structure AsksFor (c : OAuthClient) (redirectUri : String) (state : Option String) (url : String) :
    Prop where
  /-- The query follows the path at the login endpoint. -/
  text : url = c.loginUrl ++ "/services/oauth2/authorize?" ++ c.authorizationQuery redirectUri state
  /-- It reads back to the parameters, in this order and no others. -/
  pairs : Form.decode (c.authorizationQuery redirectUri state) =
    [("response_type", "code"), ("client_id", c.key), ("redirect_uri", redirectUri)] ++
      (if Text.join " " c.scopes = "" then [] else [("scope", Text.join " " c.scopes)]) ++
      (state.map ("state", ·)).toList
  /-- It stays as it is in a header field. -/
  visible : AsciiFrom 0x21 (c.authorizationQuery redirectUri state).toList
  encoded : Http.encodeTarget url = Http.encodeTarget c.loginUrl ++ "/services/oauth2/authorize?" ++
    c.authorizationQuery redirectUri state
  /-- It is the query of no request for anything else. -/
  distinct : ∀ (other : OAuthClient) otherUri otherState,
    c.authorizationQuery redirectUri state = other.authorizationQuery otherUri otherState →
      c.key = other.key ∧ redirectUri = otherUri ∧
        Text.join " " c.scopes = Text.join " " other.scopes ∧ state = otherState

/-- An authorization URL asks for exactly what it is made for, whatever the texts are that it is
made of, and it reaches the browser like this. -/
theorem asks_exactly (c : OAuthClient) (origin : SiteOrigin) (state : Option String)
    {redirectUri : String} (h : c.redirectUri origin = .ok redirectUri) :
    ∃ url, c.authorizationUrl origin state = .ok url ∧ c.AsksFor redirectUri state url ∧
      ∀ site target response, site.client = c → state = some target →
        Gate.TurnsAway site origin target response →
        response.headers.texts Http.locationField =
          [Http.encodeTarget c.loginUrl ++ "/services/oauth2/authorize?" ++
            c.authorizationQuery redirectUri state] := by
  refine ⟨_, authorizationUrl_eq h, ?_, ?_⟩
  · exact {
      text := rfl
      pairs := c.decode_authorizationQuery redirectUri state
      visible := c.asciiFrom_authorizationQuery redirectUri state
      encoded := c.encodeTarget_authorizationUrl redirectUri state
      distinct := fun _ _ _ => authorizationQuery_inj.mp }
  · rintro site target response rfl rfl hturned
    rw [Gate.location_of_turnsAway (authorizationUrl_eq h) hturned, encodeTarget_authorizationUrl]
    rfl

/-- A site whose client has separators, escapes and letters beyond ASCII in its key and its scopes.
-/
def sampleSite : Site where
  client := {
    key := "a&state=b c+%41é"
    loginUrl := "https://login.example.com/ü"
    scopes := ["api=id", "é&"] }
  cipher := ⟨[]⟩

/-- A request for a page with a query of the same kind, at the host `app.example.com`. -/
def sampleAsker : Delivery where
  request := {
    method := "GET"
    target := { path := "/find", query := some "as=é&b=%26", pathAndQuery := "/find?as=é&b=%26" }
    headers := .single "host" (Http.FieldValue.ofText? "app.example.com") }

/-- What the gate answers to it. -/
def sampleAnswer : Http.Response :=
  (Gate.serve {} sampleSite ⟨0, ⟨.replicate 12 0, .replicate 16 0⟩, Deployment.sampleBackend⟩
    (fun _ holder state => ⟨{ status := 200 }, [], state, holder⟩) sampleAsker .outside
    ⟨.create 10 0, { timeToLive := 0 }⟩).response

/-- It is turned away. -/
theorem turnsAway_sampleAnswer :
    Gate.TurnsAway sampleSite ⟨"https", "app.example.com"⟩ "/find?as=é&b=%26" sampleAnswer := by
  refine ⟨{}, ⟨0, ⟨.replicate 12 0, .replicate 16 0⟩, Deployment.sampleBackend⟩,
    fun _ holder state => ⟨{ status := 200 }, [], state, holder⟩, sampleAsker, .outside,
    ⟨.create 10 0, { timeToLive := 0 }⟩, by decide +kernel, rfl, by decide, ?_, rfl⟩
  intro context hfound
  cases hfound

/-- No separator ends a value early, and the answer leads to that URL. -/
theorem asks_exactly_sample :
    ∃ url, sampleSite.client.authorizationUrl ⟨"https", "app.example.com"⟩
        (some "/find?as=é&b=%26") = .ok url ∧
      sampleSite.client.AsksFor "https://app.example.com/_auth" (some "/find?as=é&b=%26") url ∧
      sampleAnswer.headers.texts Http.locationField =
        [Http.encodeTarget "https://login.example.com/ü" ++ "/services/oauth2/authorize?" ++
          sampleSite.client.authorizationQuery "https://app.example.com/_auth"
            (some "/find?as=é&b=%26")] := by
  have hredirect : sampleSite.client.redirectUri ⟨"https", "app.example.com"⟩ =
      .ok "https://app.example.com/_auth" := by decide +kernel
  obtain ⟨url, hurl, hasks, hleads⟩ := asks_exactly sampleSite.client ⟨"https", "app.example.com"⟩
    (some "/find?as=é&b=%26") hredirect
  exact ⟨url, hurl, hasks, hleads sampleSite _ _ rfl rfl turnsAway_sampleAnswer⟩

end OAuthClient

end SignOn
