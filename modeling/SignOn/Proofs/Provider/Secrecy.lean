import SignOn.Cipher
import SignOn.Proofs.Http.FieldValue
import SignOn.Proofs.Provider.Requests

/-!
# Secrets make no difference to diagnostics

What a request carries settles neither whether it can be made nor where it goes, an access token
that no field can hold aside. Answers and errors of the remote provider come of that and of the
reply alone, so that they are the same for any two session ids, codes, secrets and access tokens;
and so are the texts that diagnostics show of all that holds one (`hides_secrets`).
-/

namespace SignOn

/-- A transport that replies by the method and the URL of a request, as a script of replies does
that is written in advance. -/
def scripted (script : String → Url → Option ProviderReply) : Transport :=
  fun r => script r.method r.url

namespace RemoteProvider

/-- Whether requests come to the same, whatever they carry: none can be made, for the same reason,
or each is made by the same method for the same URL. -/
inductive GoAlike : Except Error ProviderRequest → Except Error ProviderRequest → Prop
  | failed (e : Error) : GoAlike (.error e) (.error e)
  | made {r r' : ProviderRequest} (method : r.method = r'.method) (url : r.url = r'.url) :
      GoAlike (.ok r) (.ok r')

section

variable {method : String} {url : Url} {authorization authorization' : Option String}
  {form form' : Option (List (String × String))} {tried tried' : Except Error ProviderRequest}

/-- Requests for one URL go alike if both authorizations can stand in a field or neither can. -/
theorem goAlike_request
    (h : authorization.any (fun value => (Http.FieldValue.ofText? value).isNone) =
      authorization'.any fun value => (Http.FieldValue.ofText? value).isNone) :
    GoAlike (request method url authorization form) (request method url authorization' form') := by
  rw [request_eq, request_eq, h]
  split
  · exact .failed _
  split
  · exact .failed _
  split
  · exact .failed _
  · exact .made rfl rfl

/-- So do requests for URLs that are found alike. -/
theorem goAlike_bind {α : Type} {found : Except Error α}
    {make make' : α → Except Error ProviderRequest} (h : ∀ a, GoAlike (make a) (make' a)) :
    GoAlike (found >>= make) (found >>= make') := by
  cases found with
  | error e => exact .failed e
  | ok a => exact h a

/-- Requests that go alike have the same answer under a script of replies. -/
theorem GoAlike.exchange_eq (h : GoAlike tried tried')
    (script : String → Url → Option ProviderReply) {α : Type}
    (decode : Octets → Except Json.Fault α) :
    Id.run (exchange (scripted script) tried decode) =
      Id.run (exchange (scripted script) tried' decode) := by
  cases h with
  | failed e => rfl
  | @made r r' hmethod hurl =>
    have hreply : scripted script r = scripted script r' := by
      rw [scripted, scripted, hmethod, hurl]
    change settle r decode (scripted script r) = settle r' decode (scripted script r')
    rw [hreply]
    cases scripted script r' with
    | none => simp only [settle, hurl]
    | some reply => simp only [settle, hurl]

end

/-- Exchanges with one login endpoint go alike, whatever is exchanged on behalf of whom. -/
theorem goAlike_exchangeRequest {p q : RemoteProvider}
    (h : p.client.loginUrl = q.client.loginUrl) {code code' redirectUri redirectUri' : String} :
    GoAlike (p.exchangeRequest code redirectUri) (q.exchangeRequest code' redirectUri') := by
  rw [exchangeRequest, exchangeRequest, h]
  cases Url.parse (q.client.loginUrl ++ tokenPath) with
  | error e => exact .failed _
  | ok url => exact goAlike_request rfl

/-- An access token can be carried exactly if a field can hold it. -/
theorem isNone_ofText?_bearer (accessToken : String) :
    (Http.FieldValue.ofText? ("Bearer " ++ accessToken)).isNone =
      (Http.FieldValue.ofText? accessToken).isNone := by
  have hmark : ∀ c ∈ "Bearer ".toList, Http.IsFieldChar c :=
    Http.forall_isFieldChar (by decide)
  have hsome : (Http.FieldValue.ofText? ("Bearer " ++ accessToken)).isSome =
      (Http.FieldValue.ofText? accessToken).isSome := by
    rw [Bool.eq_iff_iff, Http.FieldValue.isSome_ofText?_iff, Http.FieldValue.isSome_ofText?_iff,
      String.toList_append, List.forall_mem_append]
    exact and_iff_right hmark
  rw [← Option.not_isSome, ← Option.not_isSome, hsome]

/-- The provider on behalf of the same client with another secret, or none. -/
def withSecret (p : RemoteProvider) (secret : Option String) : RemoteProvider :=
  { p with client := { p.client with secret } }

/-- What secrets make no difference to, given a provider and a script of replies. -/
structure HidesSecrets (p : RemoteProvider) (script : String → Url → Option ProviderReply) :
    Prop where
  logout (c : Connection) (id id' : String) :
    (p.backend (scripted script)).logout { c with sessionId := id } =
      (p.backend (scripted script)).logout { c with sessionId := id' }
  exchangeCode (secret secret' : Option String) (code code' redirectUri redirectUri' : String) :
    ((p.withSecret secret).backend (scripted script)).exchangeCode code redirectUri =
      ((p.withSecret secret').backend (scripted script)).exchangeCode code' redirectUri'
  /-- Either a field can hold both access tokens, or it can hold neither. -/
  userRecord (t : Token) (accessToken accessToken' : String)
      (h : (Http.FieldValue.ofText? accessToken).isSome =
        (Http.FieldValue.ofText? accessToken').isSome) :
    (p.backend (scripted script)).userRecord { t with accessToken } =
      (p.backend (scripted script)).userRecord { t with accessToken := accessToken' }
  describeContext (c : SecurityContext) (id : String) :
    { c with sessionId := id : SecurityContext }.describe = c.describe
  describeConnection (c : Connection) (id : String) :
    { c with sessionId := id : Connection }.describe = c.describe
  /-- Diagnostics show whether there is a signature. -/
  describeToken (t : Token) (accessToken : String) (signature : Option String)
      (h : signature.isSome = t.signature.isSome) :
    { t with accessToken, signature : Token }.describe = t.describe
  describeClient (c : OAuthClient) (secret : Option String) :
    { c with secret : OAuthClient }.describe = c.describe
  describeCipher (c c' : Cipher) : c.describe = c'.describe
  describeProvider (secret : Option String) : (p.withSecret secret).describe = p.describe

/-- Secrets make no difference to what a provider answers, to its errors and to diagnostics. -/
theorem hides_secrets (p : RemoteProvider) (script : String → Url → Option ProviderReply) :
    p.HidesSecrets script where
  logout c id id' :=
    GoAlike.exchange_eq (goAlike_bind fun _ => goAlike_request rfl) script _
  exchangeCode secret secret' code code' redirectUri redirectUri' := by
    have hlogin : (p.withSecret secret).client.loginUrl = (p.withSecret secret').client.loginUrl :=
      rfl
    exact (goAlike_exchangeRequest hlogin).exchange_eq script Token.ofJson
  userRecord t accessToken accessToken' h := by
    refine GoAlike.exchange_eq ?_ script _
    refine goAlike_bind fun _ => goAlike_bind fun _ => goAlike_request ?_
    rw [Option.any_some, Option.any_some, isNone_ofText?_bearer, isNone_ofText?_bearer,
      ← Option.not_isSome, ← Option.not_isSome, h]
  describeContext c id := rfl
  describeConnection c id := rfl
  describeToken t accessToken signature h := by
    have hshown : ∀ text : Option String, (text.map fun _ => Text.redacted) =
        if text.isSome then some Text.redacted else none := by
      rintro (_ | text)
      · rfl
      · rfl
    simp only [Token.describe, hshown, h]
  describeClient c secret := rfl
  describeCipher c c' := rfl
  describeProvider secret := rfl

/-- Two tokens that a field can hold have the same answer where no reply comes back. A token with a
line break has another one: nothing is asked. -/
theorem hides_sampleTokens :
    (sampleProvider.backend (scripted fun _ _ => none)).userRecord
        { credentialedToken with accessToken := "00D!first" } =
      (sampleProvider.backend (scripted fun _ _ => none)).userRecord
        { credentialedToken with accessToken := "00D!second" } ∧
    (sampleProvider.backend (scripted fun _ _ => none)).userRecord
        { credentialedToken with accessToken := "00D!first" } ≠
      (sampleProvider.backend (scripted fun _ _ => none)).userRecord
        { credentialedToken with accessToken := "00D!\n" } := by
  refine ⟨?_, by decide +kernel⟩
  exact (hides_secrets sampleProvider fun _ _ => none).userRecord credentialedToken _ _
    (by decide +kernel)

end RemoteProvider

end SignOn
