import SignOn.Proofs.Encoding.Form
import SignOn.Proofs.Provider.Confinement

/-!
# What the provider is asked

Each call of the remote provider sends one request at most, which its arguments and the client
determine (`sends_exactly`), and a log of what is sent holds it once. The parameters of a form are
read back as they were given, so that no text adds one, leaves one out or changes another, and
exchanges with different data have different bodies. The credentials of a URL are not part of what a
request names; they make a value of the authorization field, which stands before the one with the
access token (`authorization_credentialedToken`).
-/

namespace SignOn

open RemoteProvider

/-! ## Calls and their requests -/

section

variable {α : Type} {call : Transport → Except Error α}

/-- What a call sends: nothing, so that it fails alike whatever would be replied, or one request.
The reply to this one settles the answer; the call fails without it, and if it reports no success.
-/
inductive Sends (call : Transport → Except Error α) : Option ProviderRequest → Prop
  | nothing {e : Error} (failed : ∀ transport, call transport = .error e) : Sends call none
  | once {r : ProviderRequest} {answer : Option ProviderReply → Except Error α}
      (settled : ∀ transport, call transport = answer (transport r))
      (lost : answer none = .error (unanswered r.url))
      (refused : ∀ reply, Http.isSuccess reply.status = false →
        answer (some reply) = .error (refusal reply)) : Sends call (some r)

private theorem unanswered_ne_refusal (url : Url) (reply : ProviderReply) :
    unanswered url ≠ refusal reply := by
  intro h
  have hkind := congrArg Error.kind h
  unfold refusal at hkind
  split at hkind
  · cases hkind
  · cases hkind

/-- A reply that reports no success. -/
private def refusing : ProviderReply where
  status := 500
  body := []

private theorem Sends.lost {r : ProviderRequest} (h : Sends call (some r)) :
    ∀ transport, transport r = none → call transport = .error (unanswered r.url) := by
  intro transport hnone
  cases h with
  | once settled lost _ => rw [settled, hnone, lost]

private theorem Sends.refused {r : ProviderRequest} (h : Sends call (some r)) :
    ∀ transport, transport r = some refusing → call transport = .error (refusal refusing) := by
  intro transport hsome
  cases h with
  | once settled _ refused => rw [settled, hsome, refused refusing rfl]

/-- A call does not send different things. -/
theorem Sends.unique {sent sent' : Option ProviderRequest} (h : Sends call sent)
    (h' : Sends call sent') : sent = sent' := by
  have hnothing : ∀ r, Sends call none → ¬ Sends call (some r) := by
    rintro r ⟨failed⟩ honce
    have hlost := (failed _).symm.trans (honce.lost (fun _ => none) rfl)
    have hrefused := (failed _).symm.trans (honce.refused (fun _ => some refusing) rfl)
    exact unanswered_ne_refusal _ _ (Except.error.inj (hlost.symm.trans hrefused))
  cases sent with
  | none =>
    cases sent' with
    | none => rfl
    | some r => exact absurd h' (hnothing r h)
  | some r =>
    cases sent' with
    | none => exact absurd h (hnothing r h')
    | some r' =>
      -- what loses the one request and refuses all others tells the two apart
      by_contra hne
      classical
      let transport : Transport := fun asked => if asked = r then none else some refusing
      have hother : transport r' = some refusing := by
        refine if_neg fun he : r' = r => hne ?_
        rw [he]
      have hlost := h.lost transport (if_pos rfl)
      have hrefused := h'.refused transport hother
      exact unanswered_ne_refusal _ _ (Except.error.inj (hlost.symm.trans hrefused))

/-- What carries requests to a server and logs each of them. The server may reply by what was sent
before. -/
def logging (server : List ProviderRequest → Transport) (r : ProviderRequest) :
    StateM (List ProviderRequest) (Option ProviderReply) :=
  modifyGet fun log => (server log r, log ++ [r])

/-- A program that is handed what carries its requests and logs them. -/
abbrev Logged (α : Type) : Type :=
  (ProviderRequest → StateM (List ProviderRequest) (Option ProviderReply)) →
    StateM (List ProviderRequest) (Except Error α)

/-- Whether a program answers as a call does and leaves in the log what is sent, once. -/
def Logs (program : Logged α) (call : Transport → Except Error α)
    (sent : Option ProviderRequest) : Prop :=
  ∀ server log, (program (logging server)).run log = (call (server log), log ++ sent.toList)

/-- Whether a call sends one request of a kind if that is possible, and none otherwise. -/
def SendsOne (call : Transport → Except Error α) (program : Logged α) (possible : Prop)
    (Is : ProviderRequest → Prop) : Prop :=
  ∃ sent, Sends call sent ∧ Logs program call sent ∧ (sent.isSome ↔ possible) ∧ ∀ r ∈ sent, Is r

/-- A call that makes a request sends just this one. -/
theorem sends_of_request (built : Except Error ProviderRequest)
    (decode : Octets → Except Json.Fault α) :
    ∃ sent, Sends (fun transport => Id.run (exchange transport built decode)) sent ∧
      Logs (exchange · built decode) (fun transport => Id.run (exchange transport built decode))
        sent ∧
      ∀ r, sent = some r ↔ built = .ok r := by
  cases built with
  | error e =>
    refine ⟨none, .nothing fun _ => rfl, fun server log => ?_, by simp⟩
    rw [Option.toList_none, List.append_nil]
    rfl
  | ok r =>
    refine ⟨some r, @Sends.once _ _ r (settle r decode) (fun _ => rfl) rfl fun reply hstatus => ?_,
      fun server log => rfl, by simp⟩
    simp [settle, hstatus]

/-- What requests are made and what they are says what is sent. -/
theorem sendsOne_of_request {built : Except Error ProviderRequest} {possible : Prop}
    {Is : ProviderRequest → Prop} (decode : Octets → Except Json.Fault α)
    (hpossible : (∃ r, built = .ok r) ↔ possible) (hbuilt : ∀ r, built = .ok r → Is r) :
    SendsOne (fun transport => Id.run (exchange transport built decode)) (exchange · built decode)
      possible Is := by
  obtain ⟨sent, hsends, hlogs, hsent⟩ := sends_of_request built decode
  refine ⟨sent, hsends, hlogs, ?_, fun r hr => hbuilt r ((hsent r).mp hr)⟩
  simp only [Option.isSome_iff_exists, hsent, hpossible]

end

/-! ## Requests -/

namespace ProviderRequest

/-- Whether a request posts a form, with the credentials of a site and no others. -/
structure Posts (r : ProviderRequest) (site : Url) (pairs : List (String × String)) : Prop where
  method : r.method = "POST"
  contentType : r.contentType = some "application/x-www-form-urlencoded"
  authorization : r.authorization = ownAuthorization site
  form : Form.decode r.body = pairs

/-- Whether a request has no body and carries an access token, beside the credentials of a site. -/
structure Gets (r : ProviderRequest) (site : Url) (accessToken : String) : Prop where
  method : r.method = "GET"
  contentType : r.contentType = none
  authorization : r.authorization = ownAuthorization site ++ ["Bearer " ++ accessToken]
  body : r.body = ""

end ProviderRequest

namespace RemoteProvider

variable {base site url : Url} {path : String} {pairs : List (String × String)}
  {r : ProviderRequest} {p : RemoteProvider} {code redirectUri : String}

private theorem ownAuthorization_congr (h : url.authority = site.authority) :
    ownAuthorization url = ownAuthorization site := by
  rw [ownAuthorization, ownAuthorization, credentials?, credentials?, h]

/-- A URL that a request can be made for is one of a network scheme. -/
theorem IsReachable.network (h : IsReachable url) : url.kind = .network := by
  have hscheme : (target url).scheme = url.scheme := by
    unfold target
    split
    · rfl
    · rfl
  have htarget := h.fits
  simp only [isTarget, hscheme, Bool.and_eq_true, Bool.or_eq_true, decide_eq_true_eq] at htarget
  exact Url.network_of_web htarget.1.1

/-- A plain path that a request can be made for is a service of the server that it is read at. -/
theorem IsReachable.isServiceOf (h : IsReachable url) (hpath : Url.IsPlainPath path)
    (hjoin : base.join path = .ok url) :
    (target url).IsServiceOf base path ∧ ownAuthorization url = ownAuthorization base := by
  obtain ⟨hservice, hauthority⟩ := Url.isServiceOf_of_join hpath hjoin h.network
  exact ⟨isServiceOf_target hservice, ownAuthorization_congr hauthority⟩

/-- When a form can be posted, and what the request is. -/
theorem post_eq_ok_iff :
    request "POST" url none (some pairs) = .ok r ↔
      IsReachable url ∧ r = {
        method := "POST"
        url := target url
        contentType := some "application/x-www-form-urlencoded"
        authorization := ownAuthorization url
        body := Form.encode pairs } := by
  simp [request_eq_ok_iff]

/-- What is posted makes no difference to whether it can be. -/
theorem exists_post_iff {At : Url → Prop} :
    (∃ r url, At url ∧ request "POST" url none (some pairs) = .ok r) ↔
      ∃ url, At url ∧ IsReachable url := by
  simp only [post_eq_ok_iff]
  constructor
  · rintro ⟨_, url, hurl, hreach, -⟩
    exact ⟨url, hurl, hreach⟩
  · rintro ⟨url, hurl, hreach⟩
    exact ⟨_, url, hurl, hreach, rfl⟩

/-! ## Ending a session -/

/-- A request that ends a session is made for the service at the endpoint. -/
theorem logoutRequest_eq_ok_iff {c : Connection} :
    logoutRequest c = .ok r ↔ ∃ url, c.endpoint.join revokePath = .ok url ∧
      request "POST" url none (some (logoutPairs c)) = .ok r := by
  rw [logoutRequest, Connection.serviceUrl]
  cases c.endpoint.join revokePath with
  | error e => simp [Except.mapError, bind, Except.bind]
  | ok url => simp [Except.mapError, bind, Except.bind]

/-- A logout posts the session to the service at the endpoint. -/
theorem sendsOne_logout (p : RemoteProvider) (c : Connection) :
    SendsOne (fun transport => (p.backend transport).logout c) (RemoteProvider.logout · c)
      (∃ url, c.endpoint.join revokePath = .ok url ∧ IsReachable url)
      fun r => r.url.IsServiceOf c.endpoint revokePath ∧
        r.Posts c.endpoint [("token", c.sessionId)] := by
  refine sendsOne_of_request _ ?_ fun r hr => ?_
  · simp only [logoutRequest_eq_ok_iff, exists_post_iff]
  · obtain ⟨url, hurl, hmade⟩ := logoutRequest_eq_ok_iff.mp hr
    obtain ⟨hreach, rfl⟩ := post_eq_ok_iff.mp hmade
    obtain ⟨hservice, hown⟩ := hreach.isServiceOf isPlainPath_services.2 hurl
    exact ⟨hservice, rfl, rfl, hown, Form.decode_encode _⟩

/-! ## Exchanging a code -/

/-- A request that exchanges a code is made for the service below the login endpoint. -/
theorem exchangeRequest_eq_ok_iff :
    p.exchangeRequest code redirectUri = .ok r ↔
      ∃ url, Url.parse (p.client.loginUrl ++ tokenPath) = .ok url ∧
        request "POST" url none (some (p.exchangePairs code redirectUri)) = .ok r := by
  rw [exchangeRequest]
  cases Url.parse (p.client.loginUrl ++ tokenPath) with
  | error e => simp
  | ok url => simp

/-- An exchange posts the code, what it was asked for with and who asks for it. -/
theorem sendsOne_exchangeCode (p : RemoteProvider) (code redirectUri : String) :
    SendsOne (fun transport => (p.backend transport).exchangeCode code redirectUri)
      (RemoteProvider.exchangeCode · p code redirectUri)
      (∃ url, Url.parse (p.client.loginUrl ++ tokenPath) = .ok url ∧ IsReachable url)
      fun r => ∃ url, Url.parse (p.client.loginUrl ++ tokenPath) = .ok url ∧ r.url = target url ∧
        r.Posts url (p.exchangePairs code redirectUri) := by
  refine sendsOne_of_request _ ?_ fun r hr => ?_
  · simp only [exchangeRequest_eq_ok_iff, exists_post_iff]
  · obtain ⟨url, hurl, hmade⟩ := exchangeRequest_eq_ok_iff.mp hr
    obtain ⟨-, rfl⟩ := post_eq_ok_iff.mp hmade
    exact ⟨url, hurl, rfl, rfl, rfl, rfl, Form.decode_encode _⟩

/-- The parameters tell the code, the redirect URI, the key and the secret. -/
theorem exchangePairs_inj {q : RemoteProvider} {code' redirectUri' : String} :
    p.exchangePairs code redirectUri = q.exchangePairs code' redirectUri' ↔
      code = code' ∧ p.client.key = q.client.key ∧ redirectUri = redirectUri' ∧
        p.client.secret = q.client.secret := by
  have hsecret : ∀ s s' : Option String, (s.map ("client_secret", ·)).toList =
      (s'.map ("client_secret", ·)).toList ↔ s = s' := by
    rintro (_ | s) (_ | s')
    · simp
    · simp
    · simp
    · simp
  simp [exchangePairs, hsecret]

/-! ## Looking up a user -/

/-- A request that looks up a user is made for the service at the instance of the token. -/
theorem userRequest_eq_ok_iff {t : Token} :
    userRequest t = .ok r ↔ ∃ site, Url.parse t.instanceUrl = .ok site ∧
      ∃ url, site.join userPath = .ok url ∧
        request "GET" url (some ("Bearer " ++ t.accessToken)) none = .ok r := by
  rw [userRequest]
  cases Url.parse t.instanceUrl with
  | error e => simp [Except.mapError, bind, Except.bind]
  | ok site =>
    cases hjoin : site.join userPath with
    | error e => simp [Except.mapError, bind, Except.bind, hjoin]
    | ok url => simp [Except.mapError, bind, Except.bind, hjoin]

/-- A look-up asks the service at the instance with the access token. -/
theorem sendsOne_userRecord (p : RemoteProvider) (t : Token) :
    SendsOne (fun transport => (p.backend transport).userRecord t) (RemoteProvider.userRecord · t)
      (∃ site url, Url.parse t.instanceUrl = .ok site ∧ site.join userPath = .ok url ∧
        IsReachable url ∧ (Http.FieldValue.ofText? ("Bearer " ++ t.accessToken)).isSome)
      fun r => ∃ site, Url.parse t.instanceUrl = .ok site ∧ r.url.IsServiceOf site userPath ∧
        r.Gets site t.accessToken := by
  refine sendsOne_of_request _ ?_ fun r hr => ?_
  · simp only [userRequest_eq_ok_iff, request_eq_ok_iff, Option.mem_some_iff, forall_eq']
    constructor
    · rintro ⟨_, site, hsite, url, hurl, hreach, hlegal, -⟩
      exact ⟨site, url, hsite, hurl, hreach, hlegal⟩
    · rintro ⟨site, url, hsite, hurl, hreach, hlegal⟩
      exact ⟨_, site, hsite, url, hurl, hreach, hlegal, rfl⟩
  · obtain ⟨site, hsite, url, hurl, hmade⟩ := userRequest_eq_ok_iff.mp hr
    obtain ⟨hreach, -, rfl⟩ := request_eq_ok_iff.mp hmade
    obtain ⟨hservice, hown⟩ := hreach.isServiceOf isPlainPath_services.1 hurl
    exact ⟨site, hsite, hservice, rfl, rfl, congrArg (· ++ _) hown, rfl⟩

/-! ## All calls -/

/-- What the calls of a remote provider send. -/
structure SendsExactly (p : RemoteProvider) : Prop where
  /-- A logout posts the session to the server of the endpoint. -/
  logout (c : Connection) :
    SendsOne (fun transport => (p.backend transport).logout c) (RemoteProvider.logout · c)
      (∃ url, c.endpoint.join "/services/oauth2/revoke" = .ok url ∧ IsReachable url)
      fun r => r.url.IsServiceOf c.endpoint "/services/oauth2/revoke" ∧
        r.Posts c.endpoint [("token", c.sessionId)]
  /-- An exchange posts the code below the login endpoint; a secret is told if there is one. -/
  exchangeCode (code redirectUri : String) :
    SendsOne (fun transport => (p.backend transport).exchangeCode code redirectUri)
      (RemoteProvider.exchangeCode · p code redirectUri)
      (∃ url, Url.parse (p.client.loginUrl ++ "/services/oauth2/token") = .ok url ∧
        IsReachable url)
      fun r => ∃ url, Url.parse (p.client.loginUrl ++ "/services/oauth2/token") = .ok url ∧
        r.url = target url ∧
        r.Posts url ([("grant_type", "authorization_code"), ("code", code),
          ("client_id", p.client.key), ("redirect_uri", redirectUri)] ++
          match p.client.secret with
          | some secret => [("client_secret", secret)]
          | none => [])
  /-- A look-up asks the server of the instance with the access token. -/
  userRecord (t : Token) :
    SendsOne (fun transport => (p.backend transport).userRecord t) (RemoteProvider.userRecord · t)
      (∃ site url, Url.parse t.instanceUrl = .ok site ∧
        site.join "/services/oauth2/userinfo" = .ok url ∧ IsReachable url ∧
        (Http.FieldValue.ofText? ("Bearer " ++ t.accessToken)).isSome)
      fun r => ∃ site, Url.parse t.instanceUrl = .ok site ∧
        r.url.IsServiceOf site "/services/oauth2/userinfo" ∧ r.Gets site t.accessToken
  /-- Exchanges that differ in their data, of this provider or another one, differ in the body. -/
  apart (q : RemoteProvider) (code redirectUri code' redirectUri' : String)
    (r r' : ProviderRequest)
    (h : Sends (fun transport => (p.backend transport).exchangeCode code redirectUri) (some r))
    (h' : Sends (fun transport => (q.backend transport).exchangeCode code' redirectUri')
      (some r')) :
    r.body = r'.body ↔ code = code' ∧ p.client.key = q.client.key ∧ redirectUri = redirectUri' ∧
      p.client.secret = q.client.secret

/-- The body that an exchange sends is the form of its parameters. -/
theorem body_of_sends
    (h : Sends (fun transport => (p.backend transport).exchangeCode code redirectUri) (some r)) :
    r.body = Form.encode (p.exchangePairs code redirectUri) := by
  obtain ⟨sent, hsends, -, hsent⟩ :=
    sends_of_request (p.exchangeRequest code redirectUri) Token.ofJson
  obtain ⟨url, -, hmade⟩ := exchangeRequest_eq_ok_iff.mp ((hsent r).mp (hsends.unique h))
  obtain ⟨-, rfl⟩ := post_eq_ok_iff.mp hmade
  rfl

/-- Each call sends at most one request, the one that its arguments and the client determine. -/
theorem sends_exactly (p : RemoteProvider) : p.SendsExactly where
  logout c := p.sendsOne_logout c
  exchangeCode code redirectUri := by
    have hpairs : p.exchangePairs code redirectUri =
        [("grant_type", "authorization_code"), ("code", code), ("client_id", p.client.key),
          ("redirect_uri", redirectUri)] ++
          match p.client.secret with
          | some secret => [("client_secret", secret)]
          | none => [] := by
      rw [exchangePairs]
      cases p.client.secret with
      | none => rfl
      | some secret => rfl
    have hsends := p.sendsOne_exchangeCode code redirectUri
    rwa [hpairs] at hsends
  userRecord t := p.sendsOne_userRecord t
  apart q code redirectUri code' redirectUri' r r' h h' := by
    rw [body_of_sends h, body_of_sends h', Form.encode_injective.eq_iff, exchangePairs_inj]

/-- A client with an empty secret. -/
def sampleProvider : RemoteProvider where
  client := { key := "key", secret := some "", loginUrl := "https://login.example.com" }

/-- A code that looks like parameters is one value among the others, and an empty secret is told. -/
theorem sends_sampleCode :
    ∃ r, Sends (fun transport =>
        (sampleProvider.backend transport).exchangeCode "a&code=b" "https://app.example.com/_auth")
        (some r) ∧
      r.url.text = "https://login.example.com/services/oauth2/token" ∧
      Form.decode r.body = [("grant_type", "authorization_code"), ("code", "a&code=b"),
        ("client_id", "key"), ("redirect_uri", "https://app.example.com/_auth"),
        ("client_secret", "")] ∧
      Logs (exchangeCode · sampleProvider "a&code=b" "https://app.example.com/_auth")
        (fun transport => (sampleProvider.backend transport).exchangeCode "a&code=b"
          "https://app.example.com/_auth") (some r) := by
  obtain ⟨sent, hsends, hlogs, hsent, his⟩ := (sends_exactly sampleProvider).exchangeCode "a&code=b"
    "https://app.example.com/_auth"
  let url : Url := {
    scheme := "https"
    authority := some { host := .domain "login.example.com" }
    path := .rooted ["services", "oauth2", "token"] }
  have hurl : Url.parse (sampleProvider.client.loginUrl ++ "/services/oauth2/token") = .ok url := by
    decide +kernel
  obtain ⟨r, rfl⟩ := Option.isSome_iff_exists.mp (hsent.mpr ⟨url, hurl, by decide +kernel⟩)
  obtain ⟨url', hurl', htarget, hposts⟩ := his r rfl
  obtain rfl := Except.ok.inj (hurl.symm.trans hurl')
  refine ⟨r, hsends, ?_, hposts.form, hlogs⟩
  rw [htarget]
  decide +kernel

/-- A token of an instance whose URL is written with credentials. -/
def credentialedToken : Token where
  accessToken := "AT"
  instanceUrl := "http://user:pw@na1.example.com"

/-- Their value stands before the one of the access token. -/
theorem authorization_credentialedToken :
    ∃ r, Sends (fun transport => (sampleProvider.backend transport).userRecord credentialedToken)
        (some r) ∧
      r.authorization = ["Basic dXNlcjpwdw==", "Bearer AT"] ∧
      r.authorization ≠ ["Bearer " ++ credentialedToken.accessToken] := by
  let site : Url := {
    scheme := "http"
    authority := some { username := "user", password := "pw", host := .domain "na1.example.com" }
    path := .rooted [""] }
  have hsite : Url.parse credentialedToken.instanceUrl = .ok site := by decide +kernel
  have hurl : site.join userPath =
      .ok { site with path := .rooted ["services", "oauth2", "userinfo"] } := by decide +kernel
  have hmade := userRequest_eq_ok_iff.mpr ⟨site, hsite, _, hurl,
    request_eq_ok_iff.mpr ⟨by decide +kernel, by decide +kernel, rfl⟩⟩
  obtain ⟨sent, hsends, -, hsent⟩ :=
    sends_of_request (userRequest credentialedToken) UserRecord.ofJson
  rw [(hsent _).mpr hmade] at hsends
  exact ⟨_, hsends, by decide +kernel, by decide +kernel⟩

end RemoteProvider

end SignOn
