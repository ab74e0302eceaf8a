import Mathlib.Data.Prod.Basic
import SignOn.Proofs.Json.Plain
import SignOn.Proofs.Provider.Answers
import SignOn.Proofs.Provider.Requests

/-!
# What replies come to

Every reply to a request of the remote provider comes to one answer (`classifies_replies`). A reply
with success is decoded, and one that cannot be is an HTTP error; any other reply is the OAuth error
that its body reports, or an unexpected status with its standard reason if it reports none. A
connection has failed if there was no reply to a request, and only then.
-/

namespace SignOn

open Json (Document Value Member Blank Shape text?)

/-! ## Reasons of statuses -/

namespace Http

/-- The standard reasons by their first status; those of a run belong to consecutive statuses. -/
def reasonRuns : List (Nat × List String) := [
  (100, ["Continue", "Switching Protocols", "Processing", "Early Hints"]),
  (200, ["OK", "Created", "Accepted", "Non Authoritative Information", "No Content",
    "Reset Content", "Partial Content", "Multi-Status", "Already Reported"]),
  (226, ["IM Used"]),
  (300, ["Multiple Choices", "Moved Permanently", "Found", "See Other", "Not Modified",
    "Use Proxy"]),
  (307, ["Temporary Redirect", "Permanent Redirect"]),
  (400, ["Bad Request", "Unauthorized", "Payment Required", "Forbidden", "Not Found",
    "Method Not Allowed", "Not Acceptable", "Proxy Authentication Required", "Request Timeout",
    "Conflict", "Gone", "Length Required", "Precondition Failed", "Payload Too Large",
    "URI Too Long", "Unsupported Media Type", "Range Not Satisfiable", "Expectation Failed",
    "I'm a teapot"]),
  (421, ["Misdirected Request", "Unprocessable Entity", "Locked", "Failed Dependency",
    "Too Early", "Upgrade Required"]),
  (428, ["Precondition Required", "Too Many Requests"]),
  (431, ["Request Header Fields Too Large"]),
  (451, ["Unavailable For Legal Reasons"]),
  (500, ["Internal Server Error", "Not Implemented", "Bad Gateway", "Service Unavailable",
    "Gateway Timeout", "HTTP Version Not Supported", "Variant Also Negotiates",
    "Insufficient Storage", "Loop Detected"]),
  (510, ["Not Extended", "Network Authentication Required"])]

/-- Whether a reason is the standard one of a status. -/
def HasReason (status : Nat) (reason : String) : Prop :=
  ∃ run ∈ reasonRuns, run.1 ≤ status ∧ run.2[status - run.1]? = some reason

theorem reasons_eq : reasons =
    reasonRuns.flatMap fun run => (run.2.zipIdx run.1).map Prod.swap := by
  decide +kernel

/-- A status has the reason that is found for it. -/
theorem lookup_reasons_eq_some_iff {status : Nat} {reason : String} :
    reasons.lookup status = some reason ↔ HasReason status reason := by
  have hdistinct : (reasons.map Prod.fst).Nodup := by decide +kernel
  rw [Json.lookup_eq_some_iff_mem hdistinct, reasons_eq, List.mem_flatMap]
  refine exists_congr fun run => and_congr_right fun _ => ?_
  rw [← List.mk_mem_zipIdx_iff_le_and_getElem?_sub, ← Prod.swap_prod_mk]
  exact List.mem_map_of_injective Prod.swap_injective

/-- A status is told with its reason. -/
theorem statusText_of_hasReason {status : Nat} {reason : String} (h : HasReason status reason) :
    statusText status = toString status ++ " " ++ reason := by
  rw [statusText, lookup_reasons_eq_some_iff.mpr h, Option.getD_some]

/-- A status that has none is told with a mark in its place. -/
theorem statusText_of_forall_not {status : Nat} (h : ∀ reason, ¬ HasReason status reason) :
    statusText status = toString status ++ " <unknown status code>" := by
  have hnone : reasons.lookup status = none :=
    Option.eq_none_iff_forall_ne_some.mpr fun reason hr =>
      h reason (lookup_reasons_eq_some_iff.mp hr)
  rw [statusText, hnone, Option.getD_none, String.append_assoc]
  rfl

end Http

/-! ## Reports of OAuth errors -/

namespace OAuthReport

/-- Whether members report an OAuth error: their names are texts, one of them has the error, and one
at most the description, which is empty without it. -/
structure IsIn (report : OAuthReport) (members : List (Member Value)) : Prop where
  named : ∀ member ∈ members, (text? member.name).isSome = true
  error : Json.Tells "error" members (some report.error)
  description : ∃ told, Json.Tells "error_description" members told ∧
    report.description = told.getD ""

theorem isPlain_shape : shape.IsPlain where
  distinct := by decide
  text := by simp [shape]

/-- An OAuth error is read off an object whose members report it, whatever the others are. -/
theorem ofJson_eq_ok_iff {d : Document} {inner : List Blank} {members : List (Member Value)}
    (hv : d.value = .object inner members) {report : OAuthReport} :
    ofJson d.octets = .ok report ↔ report.IsIn members := by
  have hfields : ∀ P : Json.Field → Prop, (∀ field ∈ shape.fields, P field) ↔
      P { name := "error" } ∧ P { name := "error_description", optional := true } := by
    simp [shape]
  have herror := (hfields (· ∈ shape.fields)).mp fun _ hf => hf
  have htext : ∀ {name : String} {told : Option String} {field : Json.Field},
      shape.Accepts members → field ∈ shape.fields → field.name = name →
        Json.Tells name members told → (shape.contents members).textOrEmpty name = told.getD "" := by
    rintro _ told field ha hf rfl ht
    rw [Json.Members.textOrEmpty, isPlain_shape.text?_contents ha hf ht]
  have hread : ofJson d.octets = .ok report ↔ shape.Accepts members ∧
      { error := (shape.contents members).textOrEmpty "error"
        description := (shape.contents members).textOrEmpty "error_description" } = report :=
    Json.map_read_eq_ok_iff hv
  have haccepts : shape.Accepts members ↔ _ := isPlain_shape.accepts_iff rfl
  rw [hfields] at haccepts
  rw [hread]
  constructor
  · rintro ⟨ha, rfl⟩
    obtain ⟨hnamed, ⟨told, ht, hsome⟩, told', ht', -⟩ := haccepts.mp ha
    obtain ⟨text, rfl⟩ := Option.isSome_iff_exists.mp (hsome rfl)
    refine ⟨hnamed, ?_, told', ht', htext ha herror.2 rfl ht'⟩
    rw [htext ha herror.1 rfl ht]
    exact ht
  · rintro ⟨hnamed, ht, told, ht', hdescription⟩
    have ha := haccepts.mpr ⟨hnamed, ⟨_, ht, fun _ => rfl⟩, told, ht', fun ho => by cases ho⟩
    refine ⟨ha, ?_⟩
    rw [htext ha herror.1 rfl ht, htext ha herror.2 rfl ht', ← hdescription]
    rfl

end OAuthReport

/-! ## Answers -/

namespace RemoteProvider

/-- What a reply comes to, given the URL that was asked and how the body of a reply with success is
decoded. -/
inductive ComesTo {α : Type} (decode : Octets → Except Json.Fault α) (url : Url)
    (reply : ProviderReply) : Except Error α → Prop
  /-- A reply with success that can be decoded is accepted. -/
  | accepted {a : α} (success : 200 ≤ reply.status ∧ reply.status ≤ 299)
      (decoded : decode reply.body = .ok a) : ComesTo decode url reply (.ok a)
  /-- A reply with success that cannot be decoded is an HTTP error. Its text names the URL, unless
  this could quote a token. -/
  | undecodable {fault : Json.Fault} {text : String}
      (success : 200 ≤ reply.status ∧ reply.status ≤ 299)
      (undecoded : decode reply.body = .error fault)
      (named : text = "error decoding response body for url (" ++ url.text ++ ")") :
      ComesTo decode url reply (.error {
        kind := .http (if Text.contains text "access_token" || Text.contains text "token=" then
          "HTTP request failed (details redacted for security)" else text)
        source := some text })
  /-- A reply without success that reports an OAuth error is this error. -/
  | refused {report : OAuthReport} (failure : ¬ (200 ≤ reply.status ∧ reply.status ≤ 299))
      (reported : OAuthReport.ofJson reply.body = .ok report) : ComesTo decode url reply (.error {
        kind := .oauth report.error report.description })
  /-- Any other reply has an unexpected status, which is told with its standard reason. -/
  | unexpected {fault : Json.Fault} {reason : String}
      (failure : ¬ (200 ≤ reply.status ∧ reply.status ≤ 299))
      (unreported : OAuthReport.ofJson reply.body = .error fault)
      (standard : Http.HasReason reply.status reason) : ComesTo decode url reply (.error {
        kind := .http ("unexpected status " ++ (toString reply.status ++ " " ++ reason)) })
  /-- An unexpected status that has no standard reason is told without one. -/
  | unknown {fault : Json.Fault} (failure : ¬ (200 ≤ reply.status ∧ reply.status ≤ 299))
      (unreported : OAuthReport.ofJson reply.body = .error fault)
      (nonstandard : ∀ reason, ¬ Http.HasReason reply.status reason) :
      ComesTo decode url reply (.error {
        kind := .http ("unexpected status " ++
          (toString reply.status ++ " <unknown status code>")) })

/-- What becomes of a call, given the request that it makes: a reply settles the answer, and a
connection has failed if there was none. -/
structure Classifies {α : Type} (call : Transport → Except Error α)
    (made : Except Error ProviderRequest) (decode : Octets → Except Json.Fault α) : Prop where
  replied : ∀ (transport : Transport) (r : ProviderRequest) (reply : ProviderReply)
    (answer : Except Error α), made = .ok r → transport r = some reply →
      (call transport = answer ↔ ComesTo decode r.url reply answer)
  unreplied : ∀ (transport : Transport) (r : ProviderRequest), made = .ok r → transport r = none →
    ∃ e, call transport = .error e
  isConnectionFailure_iff : ∀ (transport : Transport) (e : Error), call transport = .error e →
    (e.isConnectionFailure = true ↔ ∃ r, made = .ok r ∧ transport r = none)

section

variable {α : Type} {decode : Octets → Except Json.Fault α} {url : Url} {reply : ProviderReply}
  {answer : Except Error α}

/-- A reply never comes to a failed connection. -/
theorem ComesTo.isConnectionFailure {e : Error} (h : ComesTo decode url reply (.error e)) :
    e.isConnectionFailure = false := by
  cases h with
  | undecodable => rfl
  | refused => rfl
  | unexpected => rfl
  | unknown => rfl

private theorem undecodable_eq (url : Url) {text : String}
    (named : text = "error decoding response body for url (" ++ url.text ++ ")") :
    undecodable url = {
      kind := .http (if Text.contains text "access_token" || Text.contains text "token=" then
        "HTTP request failed (details redacted for security)" else text)
      source := some text } := by
  have hjoin : "error decoding response body" ++ " for url (" =
      "error decoding response body for url (" := by rfl
  rw [undecodable, exchangeText, hjoin, named]
  rfl

private theorem isSuccess_iff : Http.isSuccess reply.status = true ↔
    200 ≤ reply.status ∧ reply.status ≤ 299 := by
  simp [Http.isSuccess]

/-- A request with a reply is settled by what the reply comes to. -/
theorem comesTo_settle (r : ProviderRequest) (decode : Octets → Except Json.Fault α)
    (reply : ProviderReply) : ComesTo decode r.url reply (settle r decode (some reply)) := by
  simp only [settle, isSuccess_iff]
  split
  · next success =>
    cases hdecode : decode reply.body with
    | ok a => exact .accepted success hdecode
    | error fault =>
      have hcomes : ComesTo decode r.url reply _ := .undecodable success hdecode rfl
      rwa [← undecodable_eq r.url rfl] at hcomes
  · next failure =>
    rw [refusal]
    cases hreport : OAuthReport.ofJson reply.body with
    | ok report => exact .refused failure hreport
    | error fault =>
      by_cases hreason : ∃ reason, Http.HasReason reply.status reason
      · obtain ⟨reason, standard⟩ := hreason
        simp only [Http.statusText_of_hasReason standard]
        exact .unexpected failure hreport standard
      · have nonstandard := not_exists.mp hreason
        simp only [Http.statusText_of_forall_not nonstandard]
        exact .unknown failure hreport nonstandard

/-- A reply comes to nothing else than what settles a request for the URL. -/
theorem ComesTo.settle_eq {r : ProviderRequest} (h : ComesTo decode r.url reply answer) :
    settle r decode (some reply) = answer := by
  cases h with
  | accepted success decoded =>
    rw [settle, if_pos (isSuccess_iff.mpr success), decoded]
    rfl
  | undecodable success undecoded named =>
    rw [settle, if_pos (isSuccess_iff.mpr success), undecoded, ← undecodable_eq r.url named]
    rfl
  | refused failure reported =>
    rw [settle, if_neg (isSuccess_iff.not.mpr failure), refusal, reported]
  | unexpected failure unreported standard =>
    rw [settle, if_neg (isSuccess_iff.not.mpr failure), refusal, unreported,
      Http.statusText_of_hasReason standard]
  | unknown failure unreported nonstandard =>
    rw [settle, if_neg (isSuccess_iff.not.mpr failure), refusal, unreported,
      Http.statusText_of_forall_not nonstandard]

/-- A call that makes its request without a connection is classified by what comes back. -/
theorem classifies_of_request {made : Except Error ProviderRequest}
    (decode : Octets → Except Json.Fault α)
    (hmade : ∀ e, made = .error e → e.isConnectionFailure = false) :
    Classifies (fun transport => Id.run (exchange transport made decode)) made decode where
  replied := by
    rintro transport r reply answer rfl hreply
    change settle r decode (transport r) = answer ↔ _
    rw [hreply]
    constructor
    · rintro rfl
      exact comesTo_settle r decode reply
    · exact ComesTo.settle_eq
  unreplied := by
    rintro transport r rfl hreply
    refine ⟨unanswered r.url, ?_⟩
    change settle r decode (transport r) = _
    rw [hreply]
    rfl
  isConnectionFailure_iff := by
    intro transport e he
    cases made with
    | error e' =>
      obtain rfl : e' = e := Except.error.inj he
      simp [hmade e' rfl]
    | ok r =>
      change settle r decode (transport r) = .error e at he
      cases hreply : transport r with
      | none =>
        rw [hreply] at he
        rw [← Except.error.inj he]
        exact iff_of_true rfl ⟨r, rfl, hreply⟩
      | some reply =>
        rw [hreply] at he
        have hcomes := comesTo_settle r decode reply
        rw [he] at hcomes
        rw [hcomes.isConnectionFailure]
        simp [hreply]

end

/-- A request that cannot be made is no failed connection. -/
theorem isConnectionFailure_of_request {method : String} {url : Url}
    {authorization : Option String} {form : Option (List (String × String))} {e : Error}
    (h : request method url authorization form = .error e) : e.isConnectionFailure = false := by
  rw [request_eq] at h
  split at h
  · rw [← Except.error.inj h]
    rfl
  split at h
  · rw [← Except.error.inj h]
    rfl
  split at h
  · rw [← Except.error.inj h]
    rfl
  · cases h

/-- Nor is a text that is no URL. -/
private theorem isConnectionFailure_of_bind {found : Except Url.ParseError Url} {β : Type}
    {make : Url → Except Error β} (hmake : ∀ url e, make url = .error e →
      e.isConnectionFailure = false) {e : Error}
    (h : (found.mapError .ofParseError >>= make) = .error e) : e.isConnectionFailure = false := by
  cases found with
  | error fault =>
    obtain rfl : Error.ofParseError fault = e := Except.error.inj h
    rfl
  | ok url => exact hmake url e h

/-- What the calls of a remote provider come to. -/
structure ClassifiesReplies (p : RemoteProvider) : Prop where
  /-- A logout with success is one whatever the body is. -/
  logout (c : Connection) :
    Classifies (fun transport => (p.backend transport).logout c) (logoutRequest c) fun _ => .ok ()
  exchangeCode (code redirectUri : String) :
    Classifies (fun transport => (p.backend transport).exchangeCode code redirectUri)
      (p.exchangeRequest code redirectUri) Token.ofJson
  userRecord (t : Token) :
    Classifies (fun transport => (p.backend transport).userRecord t) (userRequest t)
      UserRecord.ofJson
  /-- An object reports an OAuth error by two of its members, and the others do not matter. -/
  reports (d : Document) (inner : List Blank) (members : List (Member Value))
      (report : OAuthReport) (hv : d.value = .object inner members) :
    OAuthReport.ofJson d.octets = .ok report ↔ report.IsIn members

/-- Every reply comes to one answer, and no reply to a failed connection. -/
theorem classifies_replies (p : RemoteProvider) : p.ClassifiesReplies where
  logout c := classifies_of_request _ fun e he =>
    isConnectionFailure_of_bind (fun _ _ => isConnectionFailure_of_request) he
  exchangeCode code redirectUri := by
    refine classifies_of_request _ fun e he => ?_
    rw [exchangeRequest] at he
    split at he
    · rw [← Except.error.inj he]
      rfl
    · exact isConnectionFailure_of_request he
  userRecord t := classifies_of_request _ fun e he =>
    isConnectionFailure_of_bind
      (fun _ _ => isConnectionFailure_of_bind fun _ _ => isConnectionFailure_of_request) he
  reports d inner members report hv := OAuthReport.ofJson_eq_ok_iff hv

/-- A body that reports an error without description, after a member of its own. -/
def sampleReport : Document :=
  answer [textMember "hint" "log in again", textMember "error" "invalid_grant"]

/-- A redirection that reports an error refuses a code, and one without a report is unexpected; no
reply at all is a failed connection. -/
theorem classifies_sampleReport :
    (∃ e, (sampleProvider.backend fun _ => some ⟨302, sampleReport.octets⟩).exchangeCode "stale"
        "https://app.example.com/_auth" = .error e ∧
      e.kind = .oauth "invalid_grant" "" ∧ e.isConnectionFailure = false) ∧
    (∃ e, (sampleProvider.backend fun _ => some ⟨302, []⟩).exchangeCode "stale"
        "https://app.example.com/_auth" = .error e ∧
      e.kind = .http "unexpected status 302 Found") ∧
    ∃ e, (sampleProvider.backend fun _ => none).exchangeCode "stale"
        "https://app.example.com/_auth" = .error e ∧ e.isConnectionFailure = true := by
  have hcalls := classifies_replies sampleProvider
  have hcall := hcalls.exchangeCode "stale" "https://app.example.com/_auth"
  have hreport : OAuthReport.ofJson sampleReport.octets = .ok ⟨"invalid_grant", ""⟩ :=
    (hcalls.reports sampleReport [] _ _ rfl).mpr {
      named := by decide +kernel
      error := .once (by rfl) (by decide +kernel)
      description := ⟨none, .nothing (by decide +kernel), rfl⟩ }
  let url : Url := {
    scheme := "https"
    authority := some { host := .domain "login.example.com" }
    path := .rooted ["services", "oauth2", "token"] }
  have hurl : Url.parse (sampleProvider.client.loginUrl ++ tokenPath) = .ok url := by
    decide +kernel
  obtain ⟨r, hmade⟩ : ∃ r, sampleProvider.exchangeRequest "stale" "https://app.example.com/_auth" =
      .ok r := by
    simp only [exchangeRequest_eq_ok_iff, exists_post_iff]
    exact ⟨url, hurl, by decide +kernel⟩
  have hunreported : OAuthReport.ofJson [] = .error .truncated := by rfl
  have hfound : Http.HasReason 302 "Found" :=
    Http.lookup_reasons_eq_some_iff.mp (by decide)
  refine ⟨⟨_, (hcall.replied _ _ _ _ hmade rfl).mpr (.refused (by decide) hreport), rfl, rfl⟩,
    ⟨_, (hcall.replied _ _ _ _ hmade rfl).mpr (.unexpected (by decide) hunreported hfound),
      by decide⟩, ?_⟩
  obtain ⟨e, he⟩ := hcall.unreplied (fun _ => none) _ hmade rfl
  exact ⟨e, he, (hcall.isConnectionFailure_iff _ e he).mpr ⟨_, hmade, rfl⟩⟩

end RemoteProvider

end SignOn
