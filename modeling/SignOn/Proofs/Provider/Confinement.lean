import SignOn.Provider.Remote
import SignOn.Proofs.Cookie.Carried
import SignOn.Proofs.Gate.Advertised

/-!
# Where access tokens go

A token names the instance that issued it. The endpoint of its session and the URLs of the two
calls that carry the token are read at that instance, from texts that hold more than the library's
own words: the API version and the organization are any text, and so are the path, the query and the
fragment of the instance's URL. None of them leads to another server or to another path
(`confined_to_instance`).
-/

namespace SignOn

namespace Url

variable {base site u : Url} {path : String} {cs : List Char}

/-! ## Services of a server -/

/-- Whether a URL leads to a path of the server of another URL, without query and fragment. -/
structure IsServiceOf (u site : Url) (path : String) : Prop where
  origin : u.SharesOrigin site
  path : u.path.text = path
  query : u.query = none
  fragment : u.fragment = none

/-- Origins are shared along the way. -/
theorem SharesOrigin.trans {v w : Url} (h : u.SharesOrigin v) (h' : v.SharesOrigin w) :
    u.SharesOrigin w :=
  ⟨h.1.trans h'.1, h.2.1.trans h'.2.1, h.2.2.trans h'.2.2⟩

/-- A service without credentials in its URL is the same service. -/
theorem IsServiceOf.withoutCredentials (h : u.IsServiceOf site path) :
    u.withoutCredentials.IsServiceOf site path := by
  have hsame : u.withoutCredentials.SharesOrigin u := by
    refine ⟨rfl, ?_, ?_⟩
    · rw [Url.withoutCredentials, Option.map_map]
      rfl
    · simp only [effectivePort?, port?, Url.withoutCredentials]
      cases u.authority with
      | none => rfl
      | some a => rfl
  exact ⟨hsame.trans h.origin, h.path, h.query, h.fragment⟩

/-- A plain path is a service of the server that it is read at, with the same credentials. -/
theorem join_of_plain (hk : base.kind = .network) {segments : List String}
    (hpath : base.path = .rooted segments) (h : IsPlainPath path) :
    ∃ u, base.join path = .ok u ∧ u.IsServiceOf base path ∧ u.authority = base.authority := by
  obtain ⟨cs, hcs⟩ := List.head?_eq_some_iff.mp h.rooted
  have hchars : ∀ c ∈ cs, IsPathChar c := fun c hc =>
    h.chars c (hcs ▸ List.mem_cons_of_mem _ hc)
  have hsingle : cs.head? ≠ some '/' := by
    have := h.single
    rwa [hcs, List.getElem?_cons_succ, ← List.head?_eq_getElem?] at this
  have hjoin : base.join path = .ok (assemble base.scheme base.authority
      (fun path => .rooted (follow base.kind [] path)) cs) := by
    rw [join_of_slash hk hpath hcs (asciiFrom_of_isPathChar hchars),
      parseRelative_of_slash (head?_any_isAnySlash hchars hsingle)]
  refine ⟨_, hjoin, ?_, rfl⟩
  refine ⟨sharesOrigin_assemble base _ cs, path_text_of_plain hk hpath h hjoin, ?_, ?_⟩
  · simp [assemble, cutTail_of_isPathChar hchars]
  · simp [assemble, cutTail_of_isPathChar hchars]

/-- A plain path is read as a URL of a network scheme only at a server of this scheme. -/
theorem isServiceOf_of_join (h : IsPlainPath path) (hu : base.join path = .ok u)
    (hk : u.kind = .network) : u.IsServiceOf base path ∧ u.authority = base.authority := by
  obtain ⟨cs, hcs⟩ := List.head?_eq_some_iff.mp h.rooted
  have hchars : ∀ c ∈ cs, IsPathChar c := fun c hc =>
    h.chars c (hcs ▸ List.mem_cons_of_mem _ hc)
  obtain ⟨hbase, segments, hpath⟩ :=
    network_of_join_slash hcs (asciiFrom_of_isPathChar hchars) hu hk
  obtain ⟨v, hv, hservice⟩ := join_of_plain hbase hpath h
  obtain rfl := Except.ok.inj (hu.symm.trans hv)
  exact hservice

/-- What is taken from the end and from the middle of a text leaves a visible front. -/
theorem withoutBreaks_clipped {s : String} {c : Char} (hs : s.toList = '/' :: c :: cs)
    (hc : 0x20 < c.toNat) : ∃ rest, withoutBreaks (clipped s) = '/' :: c :: rest := by
  have hend : decide (c ≤ ' ') = false := decide_eq_false fun hle => absurd hc (Nat.not_lt.mpr hle)
  have hbreak : isBreak c = false := by
    refine Bool.eq_false_iff.mpr fun h => ?_
    simp only [isBreak, Bool.or_eq_true, decide_eq_true_eq] at h
    rcases h with (rfl | rfl) | rfl
    · exact absurd hc (by decide)
    · exact absurd hc (by decide)
    · exact absurd hc (by decide)
  have hfront : ∀ d ∈ ['/'].head?, decide (d ≤ ' ') = false := by
    rintro d ⟨⟩
    rfl
  refine ⟨withoutBreaks (Text.trimEndBy (fun d => decide (d ≤ ' ')) cs), ?_⟩
  rw [clipped, hs, ← List.singleton_append, Text.trimBy_append_cons hfront hend]
  simp only [withoutBreaks, List.singleton_append]
  rw [List.filter_cons_of_pos (by decide), List.filter_cons_of_pos (by simp [hbreak])]

/-- A text that begins with a slash and a visible character that is none stays at the server,
whatever comes after. -/
theorem join_of_visible (hb : base.IsNetwork) {s : String} {c : Char}
    (hs : s.toList = '/' :: c :: cs) (hc : 0x20 < c.toNat) (hslash : isAnySlash c = false) :
    ∃ u, base.join s = .ok u ∧ u.SharesOrigin base ∧ u.IsNetwork := by
  obtain ⟨rest, hrest⟩ := withoutBreaks_clipped hs hc
  obtain ⟨segments, hpath, -⟩ := hb.path
  have hfile : ¬ base.kind = .file := by
    rw [hb.kind]
    decide
  have hscheme : scheme? ('/' :: c :: rest) = none := rfl
  have hjoin : base.join s = parseRelative base ('/' :: c :: rest) := by
    rw [join, parseFrom]
    simp only [hrest, hscheme, parseWithoutScheme, hpath, hfile, if_false]
    rfl
  have hread : parseRelative base ('/' :: c :: rest) = .ok _ := parseRelative_of_slash hslash
  rw [hjoin]
  exact ⟨_, hread, sharesOrigin_assemble base _ _, isNetwork_of_parseRelative hb hread⟩

end Url

/-! ## Requests to the provider -/

/-- Whether a call shows what carries requests none but those to a path of a server: how all others
are answered makes no difference. -/
def SendsOnlyTo {α : Type} (site : Url) (path : String) (call : Transport → Except Error α) :
    Prop :=
  ∀ t₁ t₂ : Transport,
    (∀ r : ProviderRequest, r.url.IsServiceOf site path → t₁ r = t₂ r) → call t₁ = call t₂

namespace RemoteProvider

variable {site url : Url} {path : String}

/-- A URL as requests name it: a user name and a password that can be read are not part of it. -/
def target (url : Url) : Url := if (credentials? url).isSome then url.withoutCredentials else url

/-- The values of the authorization field that the credentials of a URL give. -/
def ownAuthorization (url : Url) : List String := ((credentials? url).map basicAuthorization).toList

/-- Whether a request can be made for a URL: there is a host in it, and it is a target without its
credentials. -/
structure IsReachable (url : Url) : Prop where
  host : url.hostText?.isSome
  fits : isTarget (target url)

instance (url : Url) : Decidable (IsReachable url) :=
  decidable_of_iff (url.hostText?.isSome ∧ isTarget (target url))
    ⟨fun ⟨hhost, htarget⟩ => ⟨hhost, htarget⟩, fun ⟨hhost, htarget⟩ => ⟨hhost, htarget⟩⟩

/-- What requests name is the same service. -/
theorem isServiceOf_target (h : url.IsServiceOf site path) :
    (target url).IsServiceOf site path := by
  unfold target
  split
  · exact h.withoutCredentials
  · exact h

section

variable {method : String} {authorization : Option String}
  {form : Option (List (String × String))} {r : ProviderRequest}

/-- The checks of a request, in their order. -/
theorem request_eq : request method url authorization form =
    if url.hostText?.isNone then .error (unfit url)
    else if authorization.any fun value => (Http.FieldValue.ofText? value).isNone then
      .error unbuildable
    else if !isTarget (target url) then .error (unfit (target url))
    else
      .ok {
        method
        url := target url
        contentType := form.map fun _ => "application/x-www-form-urlencoded"
        authorization := ownAuthorization url ++ authorization.toList
        body := (form.map Form.encode).getD "" } := rfl

/-- When a request can be made, and what it is. -/
theorem request_eq_ok_iff : request method url authorization form = .ok r ↔
    IsReachable url ∧ (∀ value ∈ authorization, (Http.FieldValue.ofText? value).isSome) ∧
      r = {
        method
        url := target url
        contentType := form.map fun _ => "application/x-www-form-urlencoded"
        authorization := ownAuthorization url ++ authorization.toList
        body := (form.map Form.encode).getD "" } := by
  have hlegal : (authorization.any fun value => (Http.FieldValue.ofText? value).isNone) = true ↔
      ¬ ∀ value ∈ authorization, (Http.FieldValue.ofText? value).isSome := by
    cases authorization with
    | none => simp
    | some value => simp
  rw [request_eq]
  constructor
  · intro h
    split at h
    · cases h
    next hhost =>
    split at h
    · cases h
    next hvalue =>
    split at h
    · cases h
    next htarget =>
    refine ⟨⟨?_, by simpa using htarget⟩, ?_, (Except.ok.inj h).symm⟩
    · rwa [Option.isNone_iff_eq_none, ← ne_eq, ← Option.isSome_iff_ne_none] at hhost
    · rwa [hlegal, not_not] at hvalue
  · rintro ⟨⟨hhost, htarget⟩, hvalue, rfl⟩
    rw [if_neg (by rwa [Option.isNone_iff_eq_none, ← ne_eq, ← Option.isSome_iff_ne_none]),
      if_neg (by rwa [hlegal, not_not]), if_neg (by simp [htarget])]

/-- A request goes to the URL that it is made for. -/
theorem isServiceOf_of_request (hurl : url.IsServiceOf site path)
    (h : request method url authorization form = .ok r) : r.url.IsServiceOf site path := by
  obtain ⟨-, -, rfl⟩ := request_eq_ok_iff.mp h
  exact isServiceOf_target hurl

end

/-- A call that makes its request for a service sends to nothing else. -/
theorem sendsOnlyTo_of_request {α : Type} {built : Except Error ProviderRequest}
    (hbuilt : ∀ r, built = .ok r → r.url.IsServiceOf site path)
    (decode : Octets → Except Json.Fault α) :
    SendsOnlyTo site path fun transport => Id.run (exchange transport built decode) := by
  intro t₁ t₂ hagree
  cases built with
  | error e => rfl
  | ok r =>
    change settle r decode (t₁ r) = settle r decode (t₂ r)
    rw [hagree r (hbuilt r rfl)]

/-- The paths of the provider's services are plain. -/
theorem isPlainPath_services : Url.IsPlainPath userPath ∧ Url.IsPlainPath revokePath := by decide

end RemoteProvider

namespace Token

open RemoteProvider

/-- What the two calls that carry a token ask of an instance: each tries one request, for one path
of the instance's server, and shows none but that one to what carries requests. -/
structure ConfinedTo (t : Token) (context : SecurityContext) (site : Url) : Prop where
  lookUp : ∃ url, url.IsServiceOf site "/services/oauth2/userinfo" ∧
    userRequest t = request "GET" url (some ("Bearer " ++ t.accessToken)) none
  lookUpRequest : ∀ r, userRequest t = .ok r → r.url.IsServiceOf site "/services/oauth2/userinfo"
  lookUpSends : ∀ p : RemoteProvider, SendsOnlyTo site "/services/oauth2/userinfo"
    fun transport => (p.backend transport).userRecord t
  revocation : ∃ url, url.IsServiceOf site "/services/oauth2/revoke" ∧
    logoutRequest (.ofContext context) = request "POST" url none (some [("token", t.accessToken)])
  revocationRequest : ∀ r, logoutRequest (.ofContext context) = .ok r →
    r.url.IsServiceOf site "/services/oauth2/revoke"
  revocationSends : ∀ p : RemoteProvider, SendsOnlyTo site "/services/oauth2/revoke"
    fun transport => (p.backend transport).logout (.ofContext context)

variable {t : Token} {context : SecurityContext} {site : Url}

/-- The endpoint of a token's session is at the instance, whatever the API version and the
organization are. -/
theorem toContext_of_parse (hsite : Url.parse t.instanceUrl = .ok site) (hk : site.kind = .network)
    (user : UserRecord) (apiVersion : String) :
    ∃ context, t.toContext user apiVersion = .ok context ∧ context.sessionId = t.accessToken ∧
      context.endpoint.SharesOrigin site ∧ context.endpoint.IsNetwork := by
  have htext : (endpointPath apiVersion user.organizationId).toList = '/' :: 's' ::
      ("ervices/Soap/u/" ++ apiVersion ++ "/" ++ user.organizationId).toList := by
    unfold endpointPath
    simp
  obtain ⟨endpoint, hjoin, hendpoint⟩ :=
    Url.join_of_visible (Url.isNetwork_of_parse hsite hk) htext (by decide) (by decide)
  refine ⟨{
    sessionId := t.accessToken
    endpoint
    orgId := user.organizationId
    userId := user.userId
    userName := user.preferredUsername
    role := user.role.getD ""
    locale := user.locale
    language := user.language
    timeZone := user.zoneinfo }, ?_, rfl, hendpoint⟩
  rw [toContext, hsite]
  change ((site.join _).mapError Error.ofParseError).bind _ = _
  rw [hjoin]
  rfl

/-- The user of a token is looked up at the instance. -/
theorem userRequest_of_parse (hsite : Url.parse t.instanceUrl = .ok site)
    (hk : site.kind = .network) :
    ∃ url, url.IsServiceOf site userPath ∧
      userRequest t = request "GET" url (some ("Bearer " ++ t.accessToken)) none := by
  obtain ⟨segments, hpath⟩ := Url.rooted_of_parse hsite hk
  obtain ⟨url, hjoin, hurl, -⟩ := Url.join_of_plain hk hpath isPlainPath_services.1
  refine ⟨url, hurl, ?_⟩
  rw [userRequest, hsite]
  change ((site.join userPath).mapError Error.ofParseError).bind _ = _
  rw [hjoin]
  rfl

/-- A session is ended at the server of its endpoint. -/
theorem logoutRequest_of_endpoint (horigin : context.endpoint.SharesOrigin site)
    (hendpoint : context.endpoint.IsNetwork) :
    ∃ url, url.IsServiceOf site revokePath ∧
      logoutRequest (.ofContext context) =
        request "POST" url none (some [("token", context.sessionId)]) := by
  obtain ⟨segments, hpath, -⟩ := hendpoint.path
  obtain ⟨url, hjoin, hurl, -⟩ := Url.join_of_plain hendpoint.kind hpath isPlainPath_services.2
  refine ⟨url, ⟨hurl.origin.trans horigin, hurl.path, hurl.query, hurl.fragment⟩, ?_⟩
  change ((context.endpoint.join revokePath).mapError Error.ofParseError).bind _ = _
  rw [hjoin]
  rfl

/-- A token is sent to nothing but the instance that issued it, whatever the API version, the
organization and the rest of the instance's URL hold. -/
theorem confined_to_instance (t : Token) (user : UserRecord) (apiVersion : String) {site : Url}
    (hsite : Url.parse t.instanceUrl = .ok site)
    (hscheme : site.scheme = "http" ∨ site.scheme = "https") :
    ∃ context, t.toContext user apiVersion = .ok context ∧ t.ConfinedTo context site := by
  have hk : site.kind = .network := by
    refine Url.network_iff.mpr ?_
    rcases hscheme with h | h
    · simp [h]
    · simp [h]
  obtain ⟨context, hcontext, hid, horigin, hendpoint⟩ := toContext_of_parse hsite hk user apiVersion
  obtain ⟨userUrl, huser, hlookUp⟩ := userRequest_of_parse hsite hk
  obtain ⟨revokeUrl, hrevoke, hrevocation⟩ := logoutRequest_of_endpoint horigin hendpoint
  have huserRequest : ∀ r, userRequest t = .ok r → r.url.IsServiceOf site userPath :=
    fun r hr => isServiceOf_of_request huser (hlookUp ▸ hr)
  have hlogoutRequest : ∀ r, logoutRequest (.ofContext context) = .ok r →
      r.url.IsServiceOf site revokePath :=
    fun r hr => isServiceOf_of_request hrevoke (hrevocation ▸ hr)
  exact ⟨context, hcontext, {
    lookUp := ⟨userUrl, huser, hlookUp⟩
    lookUpRequest := huserRequest
    lookUpSends := fun _ => sendsOnlyTo_of_request huserRequest _
    revocation := ⟨revokeUrl, hrevoke, hid ▸ hrevocation⟩
    revocationRequest := hlogoutRequest
    revocationSends := fun _ => sendsOnlyTo_of_request hlogoutRequest _ }⟩

/-- A token whose instance is written with credentials, a port, dots, a query and a fragment. -/
def sampleToken : Token where
  accessToken := "00D!access"
  instanceUrl := "https://user:pw@na1.example.com:8443/a/../b\\c?x=//evil.example.com#@y"

/-- The URL of its instance. -/
def sampleInstance : Url where
  scheme := "https"
  authority := some {
    username := "user"
    password := "pw"
    host := .domain "na1.example.com"
    port := some 8443 }
  path := .rooted ["b", "c"]
  query := some "x=//evil.example.com"
  fragment := some "@y"

/-- Neither the rest of that URL nor a version and an organization that look like parts of other
URLs lead the token away. -/
theorem confined_sampleToken :
    ∃ context, sampleToken.toContext
        { userId := "005", organizationId := "\\\\evil.example.com/\n@evil.example.com#\t" }
        "../../../..//evil.example.com:80/?" = .ok context ∧
      sampleToken.ConfinedTo context sampleInstance :=
  confined_to_instance sampleToken _ _ (by decide +kernel) (.inr rfl)

end Token

end SignOn
