import SignOn.Connection.Basic

/-!
# Answers of the identity provider

The provider answers with a token for a code, with a record of the user for a token, and with an
OAuth error. All three are open records: members that are not known are passed over. Diagnostics
never show the access token or the signature.
-/

namespace SignOn

/-- What the provider gives for an authorization code. -/
structure Token where
  accessToken : String
  instanceUrl : String
  id : Option String := none
  tokenType : Option String := none
  scope : Option String := none
  signature : Option String := none
  issuedAt : Option String := none
  deriving DecidableEq

/-- What the provider knows about a user. -/
structure UserRecord where
  userId : String
  organizationId : String
  preferredUsername : String := ""
  locale : String := ""
  language : String := ""
  zoneinfo : String := ""
  role : Option String := none
  deriving DecidableEq

/-- The provider's report of an OAuth error. -/
structure OAuthReport where
  error : String
  description : String
  deriving DecidableEq

namespace Token

/-- The members of a token, in their written order. -/
def members (t : Token) : Json.Members := [
  ("access_token", some t.accessToken),
  ("instance_url", some t.instanceUrl),
  ("id", t.id),
  ("token_type", t.tokenType),
  ("scope", t.scope),
  ("signature", t.signature),
  ("issued_at", t.issuedAt)]

/-- The JSON text of a token. -/
def json (t : Token) : String := Json.writeRecord t.members

/-- The record that holds a token. -/
def shape : Json.Shape where
  fields := [
    { name := "access_token" },
    { name := "instance_url" },
    { name := "id", nullable := true, optional := true },
    { name := "token_type", nullable := true, optional := true },
    { name := "scope", nullable := true, optional := true },
    { name := "signature", nullable := true, optional := true },
    { name := "issued_at", nullable := true, optional := true }]

/-- The token that a JSON text holds. -/
def ofJson (bs : Octets) : Except Json.Fault Token :=
  (shape.read bs).map fun members => {
    accessToken := members.textOrEmpty "access_token"
    instanceUrl := members.textOrEmpty "instance_url"
    id := members.text? "id"
    tokenType := members.text? "token_type"
    scope := members.text? "scope"
    signature := members.text? "signature"
    issuedAt := members.text? "issued_at" }

/-- The path of a session's endpoint. -/
def endpointPath (apiVersion organizationId : String) : String :=
  "/services/Soap/u/" ++ apiVersion ++ "/" ++ organizationId

/-- The context of a user to whom a token was given. -/
def toContext (t : Token) (user : UserRecord) (apiVersion : String) :
    Except Error SecurityContext := do
  let site ← (Url.parse t.instanceUrl).mapError .ofParseError
  let endpoint ← (site.join (endpointPath apiVersion user.organizationId)).mapError .ofParseError
  pure {
    sessionId := t.accessToken
    endpoint
    orgId := user.organizationId
    userId := user.userId
    userName := user.preferredUsername
    role := user.role.getD ""
    locale := user.locale
    language := user.language
    timeZone := user.zoneinfo }

/-- The token as diagnostics show it. -/
def describe (t : Token) : String :=
  Text.showRecord "TokenResponse" [
    ("access_token", Text.redacted),
    ("instance_url", Text.quote t.instanceUrl),
    ("id", Text.showOption (t.id.map Text.quote)),
    ("token_type", Text.showOption (t.tokenType.map Text.quote)),
    ("scope", Text.showOption (t.scope.map Text.quote)),
    ("signature", Text.showOption (t.signature.map fun _ => Text.redacted)),
    ("issued_at", Text.showOption (t.issuedAt.map Text.quote))]

end Token

namespace UserRecord

/-- The members of a user record, in their written order. -/
def members (u : UserRecord) : Json.Members := [
  ("user_id", some u.userId),
  ("organization_id", some u.organizationId),
  ("preferred_username", some u.preferredUsername),
  ("locale", some u.locale),
  ("language", some u.language),
  ("zoneinfo", some u.zoneinfo),
  ("role", u.role)]

/-- The JSON text of a user record. -/
def json (u : UserRecord) : String := Json.writeRecord u.members

/-- The record that holds a user. -/
def shape : Json.Shape where
  fields := [
    { name := "user_id" },
    { name := "organization_id" },
    { name := "preferred_username", optional := true },
    { name := "locale", optional := true },
    { name := "language", optional := true },
    { name := "zoneinfo", optional := true },
    { name := "role", nullable := true, optional := true }]

/-- The user record that a JSON text holds. -/
def ofJson (bs : Octets) : Except Json.Fault UserRecord :=
  (shape.read bs).map fun members => {
    userId := members.textOrEmpty "user_id"
    organizationId := members.textOrEmpty "organization_id"
    preferredUsername := members.textOrEmpty "preferred_username"
    locale := members.textOrEmpty "locale"
    language := members.textOrEmpty "language"
    zoneinfo := members.textOrEmpty "zoneinfo"
    role := members.text? "role" }

/-- The user record as diagnostics show it. -/
def describe (u : UserRecord) : String :=
  Text.showRecord "UserInfo" [
    ("user_id", Text.quote u.userId),
    ("organization_id", Text.quote u.organizationId),
    ("preferred_username", Text.quote u.preferredUsername),
    ("locale", Text.quote u.locale),
    ("language", Text.quote u.language),
    ("zoneinfo", Text.quote u.zoneinfo),
    ("role", Text.showOption (u.role.map Text.quote))]

end UserRecord

namespace OAuthReport

/-- The record that holds an OAuth error. -/
def shape : Json.Shape where
  fields := [{ name := "error" }, { name := "error_description", optional := true }]

/-- The OAuth error that a JSON text holds. -/
def ofJson (bs : Octets) : Except Json.Fault OAuthReport :=
  (shape.read bs).map fun members => {
    error := members.textOrEmpty "error"
    description := members.textOrEmpty "error_description" }

end OAuthReport

end SignOn
