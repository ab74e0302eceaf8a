import SignOn.Encoding.Base64Url
import SignOn.Encoding.Form
import SignOn.Http.Status
import SignOn.OAuth.Client
import SignOn.Provider.Backend

/-!
# The remote provider

The backend that talks HTTP to the provider. Each call makes at most one request, whatever carries
it. A request that cannot be made, one that no reply comes back for and a reply that is not
understood are told apart by the error, whose text names the URL and nothing else of the request.
-/

namespace SignOn

/-- A request to the provider. -/
structure ProviderRequest where
  method : String
  url : Url
  contentType : Option String := none
  authorization : List String := []
  body : String := ""

/-- A reply of the provider. -/
structure ProviderReply where
  status : Nat
  body : Octets

/-- What carries requests to the provider; `none` when no reply came back. -/
abbrev Transport := ProviderRequest → Option ProviderReply

/-- The provider reached through a transport, on behalf of a client. -/
structure RemoteProvider where
  client : OAuthClient

namespace RemoteProvider

/-- An error text for logs: one that may quote a token says nothing. -/
def sanitize (text : String) : String :=
  if Text.contains text "access_token" || Text.contains text "token=" then
    "HTTP request failed (details redacted for security)"
  else text

/-- A failure of the HTTP exchange, with the URL it concerns. -/
def exchangeText (what : String) (url : Url) : String :=
  sanitize (what ++ " for url (" ++ url.text ++ ")")

/-- The error of a request that cannot be built. -/
def unbuildable : Error where
  kind := .http "builder error"
  source := some "builder error"

/-- The error of a request for which a URL is not fit. -/
def unfit (url : Url) : Error where
  kind := .http (exchangeText "builder error" url)
  source := some ("builder error for url (" ++ url.text ++ ")")

/-- The error of a request without reply. -/
def unanswered (url : Url) : Error where
  kind := .connectionFailure (exchangeText "error sending request" url)
  source := some ("error sending request for url (" ++ url.text ++ ")")

/-- The error of a reply whose body cannot be decoded. -/
def undecodable (url : Url) : Error where
  kind := .http (exchangeText "error decoding response body" url)
  source := some ("error decoding response body for url (" ++ url.text ++ ")")

/-- User name and password of a URL as text, if it has any that can be read. -/
def credentials? (url : Url) : Option (String × Option String) := do
  let a ← url.authority
  let decoded? (s : String) := Octets.text? (Percent.decode (Octets.ofText s))
  let username ← decoded? a.username
  let password := if a.password = "" then none else decoded? a.password
  if username = "" ∧ password = none then none else pure (username, password)

/-- The base64 digits of octets, filled up to a multiple of four. -/
def paddedBase64 (octets : Octets) : String :=
  let digits := (Base64Url.encode octets).map fun c =>
    if c = '-' then '+' else if c = '_' then '/' else c
  String.ofList (digits ++ List.replicate ((4 - digits.length % 4) % 4) '=')

/-- The field value that carries a user name and a password. -/
def basicAuthorization (credentials : String × Option String) : String :=
  "Basic " ++ paddedBase64 (Octets.ofText (credentials.1 ++ ":" ++ credentials.2.getD ""))

/-- Whether a character may stand in the authority of a request target, beyond ASCII aside. -/
def isAuthorityChar (c : Char) : Bool :=
  c.isAlphanum || "!$%&'()*+,-.:;=@[]_~".toList.contains c

/-- The length up to which a URL is a request target. -/
def maxTarget : Nat := 65534

/-- Whether a URL can be the target of a request: it is one of HTTP, not too long, and its host
holds no character that is out of place there. -/
def isTarget (url : Url) : Bool :=
  (url.scheme = "http" || url.scheme = "https") &&
    (url.hostText?.getD "").toList.all isAuthorityChar && url.text.length ≤ maxTarget

/-- A request with the credentials of its URL in a field of their own. The URL needs a host and the
authorization has to be a legal field value. -/
def request (method : String) (url : Url) (authorization : Option String)
    (form : Option (List (String × String))) : Except Error ProviderRequest :=
  let credentials := credentials? url
  let bare := if credentials.isSome then url.withoutCredentials else url
  if url.hostText?.isNone then .error (unfit url)
  else if authorization.any fun value => (Http.FieldValue.ofText? value).isNone then
    .error unbuildable
  else if !isTarget bare then .error (unfit bare)
  else
    .ok {
      method
      url := bare
      contentType := form.map fun _ => "application/x-www-form-urlencoded"
      authorization := (credentials.map basicAuthorization).toList ++ authorization.toList
      body := (form.map Form.encode).getD "" }

/-- The error that a reply without success reports. -/
def refusal (reply : ProviderReply) : Error :=
  match OAuthReport.ofJson reply.body with
  | .ok report => { kind := .oauth report.error report.description }
  | .error _ => { kind := .http ("unexpected status " ++ Http.statusText reply.status) }

/-- What a request comes to: the body of a reply with success is decoded. -/
def settle {α : Type} (request : ProviderRequest) (decode : Octets → Except Json.Fault α) :
    Option ProviderReply → Except Error α
  | none => .error (unanswered request.url)
  | some reply =>
    if Http.isSuccess reply.status then
      (decode reply.body).mapError fun _ => undecodable request.url
    else .error (refusal reply)

/-- Send a request, if it can be made, and settle what it comes to. -/
def exchange {m : Type → Type} [Monad m] {α : Type}
    (send : ProviderRequest → m (Option ProviderReply)) (made : Except Error ProviderRequest)
    (decode : Octets → Except Json.Fault α) : m (Except Error α) :=
  match made with
  | .error e => pure (.error e)
  | .ok request => do return settle request decode (← send request)

/-- The path that ends a session. -/
def revokePath : String := "/services/oauth2/revoke"

/-- The path that gives tokens for codes. -/
def tokenPath : String := "/services/oauth2/token"

/-- The path that gives user records. -/
def userPath : String := "/services/oauth2/userinfo"

/-- The parameters of the request that ends a session. -/
def logoutPairs (connection : Connection) : List (String × String) :=
  [("token", connection.sessionId)]

/-- The parameters of the request that exchanges a code. -/
def exchangePairs (p : RemoteProvider) (code redirectUri : String) : List (String × String) :=
  [("grant_type", "authorization_code"), ("code", code), ("client_id", p.client.key),
    ("redirect_uri", redirectUri)] ++ (p.client.secret.map ("client_secret", ·)).toList

/-- The request that ends a session. -/
def logoutRequest (connection : Connection) : Except Error ProviderRequest := do
  request "POST" (← connection.serviceUrl revokePath) none (some (logoutPairs connection))

/-- The request that exchanges a code. -/
def exchangeRequest (p : RemoteProvider) (code redirectUri : String) :
    Except Error ProviderRequest :=
  match Url.parse (p.client.loginUrl ++ tokenPath) with
  | .error _ => .error unbuildable
  | .ok url => request "POST" url none (some (p.exchangePairs code redirectUri))

/-- The request that looks up a user. -/
def userRequest (token : Token) : Except Error ProviderRequest := do
  let site ← (Url.parse token.instanceUrl).mapError .ofParseError
  let url ← (site.join userPath).mapError .ofParseError
  request "GET" url (some ("Bearer " ++ token.accessToken)) none

section

variable {m : Type → Type} [Monad m] (send : ProviderRequest → m (Option ProviderReply))

/-- End the session of a connection. -/
def logout (connection : Connection) : m (Except Error Unit) :=
  exchange send (logoutRequest connection) fun _ => .ok ()

/-- Exchange an authorization code for a token. -/
def exchangeCode (p : RemoteProvider) (code redirectUri : String) : m (Except Error Token) :=
  exchange send (p.exchangeRequest code redirectUri) Token.ofJson

/-- Look up the user that a token belongs to. -/
def userRecord (token : Token) : m (Except Error UserRecord) :=
  exchange send (userRequest token) UserRecord.ofJson

end

/-- The remote provider as a backend. -/
def backend (p : RemoteProvider) (transport : Transport) : IdentityBackend where
  logout connection := Id.run (logout transport connection)
  exchangeCode code redirectUri := Id.run (exchangeCode transport p code redirectUri)
  userRecord token := Id.run (userRecord transport token)

/-- The remote provider as diagnostics show it. -/
def describe (p : RemoteProvider) : String :=
  Text.showOpenRecord "SalesforceIdentityBackend" [("config", p.client.describe)]

end RemoteProvider

end SignOn
