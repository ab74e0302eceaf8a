import SignOn.Context
import SignOn.OAuth.SiteOrigin
import SignOn.Url.Origin

/-!
# Connections

A connection is what is needed to talk to the provider for one session: the session's endpoint and
id. Diagnostics never show the id.
-/

namespace SignOn

/-- Endpoint and id of a session at the provider. -/
structure Connection where
  endpoint : Url
  sessionId : String
  deriving DecidableEq

namespace Connection

/-- The connection of a context's session. -/
def ofContext (context : SecurityContext) : Connection where
  endpoint := context.endpoint
  sessionId := context.sessionId

/-- The text of the origin that the endpoint belongs to. -/
def instanceText (c : Connection) : String := c.endpoint.originText

/-- The URL of a path at the endpoint. -/
def serviceUrl (c : Connection) (path : String) : Except Error Url :=
  (c.endpoint.join path).mapError .ofParseError

/-- The connection as diagnostics show it. -/
def describe (c : Connection) : String :=
  Text.showRecord "ConnectorConfig" [
    ("endpoint", Text.quote c.endpoint.text),
    ("session_id", Text.redacted)]

end Connection

end SignOn
