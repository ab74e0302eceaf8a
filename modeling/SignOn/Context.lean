import SignOn.Json.Record
import SignOn.Json.Write
import SignOn.Text.Quoted
import SignOn.Url.Parse

/-!
# Security contexts

A security context says who is signed in and where the session lives: the session id given out by
the identity provider, the endpoint the session is bound to and the user's attributes. In JSON it is
a closed record of nine texts, none of which may be missing. Diagnostics never show the session id.
-/

namespace SignOn

/-- Identity and session of a signed-in user. -/
structure SecurityContext where
  sessionId : String
  endpoint : Url
  orgId : String := ""
  userId : String := ""
  userName : String := ""
  role : String := ""
  locale : String := ""
  language : String := ""
  timeZone : String := ""
  deriving DecidableEq

namespace SecurityContext

/-- Whether there is a session to end at the provider. A context may outlive its session. -/
def hasSession (c : SecurityContext) : Bool := c.sessionId ≠ ""

/-- The members of a context, in their written order. -/
def members (c : SecurityContext) : Json.Members := [
  ("sessionId", some c.sessionId),
  ("endpoint", some c.endpoint.text),
  ("orgId", some c.orgId),
  ("userId", some c.userId),
  ("userName", some c.userName),
  ("role", some c.role),
  ("locale", some c.locale),
  ("language", some c.language),
  ("timeZone", some c.timeZone)]

/-- The JSON text of a context. -/
def json (c : SecurityContext) : String := Json.writeRecord c.members

/-- Whether a text is a URL. -/
def isUrl (s : String) : Bool := (Url.parse s).toOption.isSome

/-- The record that holds a context. -/
def shape : Json.Shape where
  fields := [
    { name := "sessionId" },
    { name := "endpoint", accepts := isUrl },
    { name := "orgId" },
    { name := "userId" },
    { name := "userName" },
    { name := "role" },
    { name := "locale" },
    { name := "language" },
    { name := "timeZone" }]
  closed := true

/-- The context that a JSON text holds. -/
def ofJson (bs : Octets) : Except Json.Fault SecurityContext := do
  let members ← shape.read bs
  match Url.parse (members.textOrEmpty "endpoint") with
  | .error _ => .error .mismatched
  | .ok endpoint =>
    pure {
      sessionId := members.textOrEmpty "sessionId"
      endpoint
      orgId := members.textOrEmpty "orgId"
      userId := members.textOrEmpty "userId"
      userName := members.textOrEmpty "userName"
      role := members.textOrEmpty "role"
      locale := members.textOrEmpty "locale"
      language := members.textOrEmpty "language"
      timeZone := members.textOrEmpty "timeZone" }

/-- The context as diagnostics show it. -/
def describe (c : SecurityContext) : String :=
  Text.showRecord "SecurityContext" [
    ("session_id", Text.redacted),
    ("endpoint", Text.quote c.endpoint.text),
    ("org_id", Text.quote c.orgId),
    ("user_id", Text.quote c.userId),
    ("user_name", Text.quote c.userName),
    ("role", Text.quote c.role),
    ("locale", Text.quote c.locale),
    ("language", Text.quote c.language),
    ("time_zone", Text.quote c.timeZone)]

end SecurityContext

end SignOn
