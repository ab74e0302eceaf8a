import SignOn.Connection.Cache
import SignOn.Holder.Basic
import SignOn.Http.Message
import SignOn.OAuth.Client
import SignOn.Provider.Backend
import SignOn.Storage.Basic

/-!
# Sites

A site is what all filters of one application share: the OAuth client, the cipher, the attributes of
cookies and how the site's own origin is found. The sessions and the connection cache are its state.
A handler answers a request; besides the response it says which calls of the backend it made, the
state that it leaves and what stands in the holder afterwards.
-/

namespace SignOn

/-- What the filters of one application share. -/
structure Site where
  client : OAuthClient
  cipher : Cipher
  cookieOptions : Cookie.Options := {}
  /-- The scheme of requests about which no proxy says more. -/
  defaultScheme : String := "https"
  /-- Whether the header fields of a proxy are believed. -/
  trustsProxy : Bool := false
  /-- The origin that is used whatever a request says. -/
  publicOrigin : Option SiteOrigin := none

/-- The state that the filters of one application share. -/
structure SharedState where
  sessions : SessionStore
  connections : ConnectionCache

/-- What a request meets besides the site's state: the time, random values and the backend. -/
structure Occasion where
  now : Int
  fresh : Fresh
  backend : IdentityBackend

/-- What serving a request did. -/
structure Served where
  response : Http.Response
  calls : List BackendCall := []
  state : SharedState
  holder : Holder

/-- A request together with the context that a filter before has attached to it. -/
structure Delivery where
  request : Http.Request
  attached : Option SecurityContext := none

/-- What answers requests, from the holder of the task and the shared state. -/
abbrev Handler := Delivery → Holder → SharedState → Served

namespace Site

/-- The origin that a request was addressed to. -/
def origin (site : Site) (request : Http.Headers) : SiteOrigin :=
  site.publicOrigin.getD (.ofRequest request site.defaultScheme site.trustsProxy)

/-- The storage of a method. -/
def storage (site : Site) (method : StorageMethod) : Storage where
  method
  cipher := site.cipher
  cookieOptions := site.cookieOptions

/-- The site as diagnostics show it. -/
def describe (site : Site) : String :=
  Text.showOpenRecord "ForceServices" [
    ("connector", Text.showRecord "OAuthConnector" [("config", site.client.describe)]),
    ("cipher", site.cipher.describe),
    ("cookie_options", site.cookieOptions.describe),
    ("default_scheme", Text.quote site.defaultScheme),
    ("trusted_proxy", Text.showBool site.trustsProxy),
    ("public_origin", Text.showOption (site.publicOrigin.map SiteOrigin.describe))]

end Site

namespace SharedState

/-- The state without expired sessions and without connections that are out of date. -/
def sweep (s : SharedState) (now : Int) : SharedState where
  sessions := s.sessions.sweep now
  connections := s.connections.sweep now

end SharedState

end SignOn
