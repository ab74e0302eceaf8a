import SignOn.Config.Gate
import SignOn.Encoding.Form
import SignOn.Site

/-!
# The authentication gate

The gate stands before the handlers of an application. An excluded path passes untouched. The
callback path completes a login: the provider's code is exchanged, the user looked up, the context
kept and the browser sent back to where it was going. Every other request passes only with a stored
context, which is attached to it and held while it is served; without one the browser is sent to the
provider, and what cannot be read is cleared first.
-/

namespace SignOn.Gate

/-- The parameters that the provider sends to the callback path. -/
structure CallbackParameters where
  code : Option String := none
  state : Option String := none
  error : Option String := none
  deriving DecidableEq

/-- The parameters in a query; none count if one of them is repeated. -/
def callbackParameters (query : Option String) : CallbackParameters :=
  let pairs := (query.map Form.decode).getD []
  match Form.single? "code" pairs, Form.single? "state" pairs, Form.single? "error" pairs with
  | some code, some state, some error => { code, state, error }
  | _, _, _ => {}

/-- Where a browser goes after a login: the state if it is an absolute path of the same site, else
the root. -/
def localTarget (state : Option String) : String :=
  match state with
  | some s =>
    if "/".toList.isPrefixOf s.toList && !"//".toList.isPrefixOf s.toList then s else "/"
  | none => "/"

/-- What completing a login did. -/
structure Login where
  outcome : Except Error SecurityContext
  cookies : Http.Headers := .empty
  calls : List BackendCall
  state : SharedState

/-- Build the context of a token and a user, keep it and cache its connection. -/
def enroll (settings : GateSettings) (site : Site) (occasion : Occasion) (request : Http.Headers)
    (state : SharedState) (calls : List BackendCall) (token : Token) (user : UserRecord) : Login :=
  match token.toContext user settings.apiVersion with
  | .error e => { outcome := .error e, calls, state }
  | .ok context =>
    let stored := (site.storage settings.storageMethod).save state.sessions occasion.now
      occasion.fresh request .empty context
    match stored.outcome with
    | .error e =>
      { outcome := .error e, cookies := stored.cookies, calls
        state := { state with sessions := stored.sessions } }
    | .ok () =>
      { outcome := .ok context, cookies := stored.cookies, calls
        state := {
          sessions := stored.sessions
          connections := state.connections.put occasion.now context } }

/-- Complete a login with an authorization code. -/
def authenticate (settings : GateSettings) (site : Site) (occasion : Occasion)
    (request : Http.Headers) (state : SharedState) (code : String) : Login :=
  match site.client.redirectUri (site.origin request) with
  | .error e => { outcome := .error e, calls := [], state }
  | .ok redirectUri =>
    match occasion.backend.exchangeCode code redirectUri with
    | .error e => { outcome := .error e, calls := [.exchangeCode code redirectUri], state }
    | .ok token =>
      let calls := [.exchangeCode code redirectUri, .userRecord token]
      match occasion.backend.userRecord token with
      | .error e => { outcome := .error e, calls, state }
      | .ok user => enroll settings site occasion request state calls token user

/-- The answer on the callback path. -/
def callback (settings : GateSettings) (site : Site) (occasion : Occasion)
    (request : Http.Request) (holder : Holder) (state : SharedState) : Served :=
  let parameters := callbackParameters request.target.query
  match parameters.error, parameters.code with
  | some _, _ => { response := Http.plainResponse 401 "authorization denied", state, holder }
  | none, none => { response := Http.plainResponse 400 "missing authorization code", state, holder }
  | none, some code =>
    let login := authenticate settings site occasion request.headers state code
    match login.outcome with
    | .ok _ =>
      { response := Http.redirect (localTarget parameters.state) login.cookies
        calls := login.calls, state := login.state, holder }
    | .error _ =>
      { response := Http.plainResponse 401 "authentication failed"
        calls := login.calls, state := login.state, holder }

/-- Send the browser to the provider, with where it was going as the state. -/
def loginRedirect (site : Site) (request : Http.Request) (cookies : Http.Headers) : Http.Response :=
  let state := request.target.pathAndQuery.getD "/"
  match site.client.authorizationUrl (site.origin request.headers) (some state) with
  | .ok url => Http.redirect url cookies
  | .error _ => Http.plainResponse 500 "authentication unavailable"

/-- The gate before a handler. -/
def serve (settings : GateSettings) (site : Site) (occasion : Occasion) (inner : Handler) :
    Handler :=
  fun delivery holder state =>
    let request := delivery.request
    if settings.isExcluded request.target.path then inner delivery holder state
    else if request.target.path = site.client.callbackPath then
      callback settings site occasion request holder state
    else
      let storage := site.storage settings.storageMethod
      let (loaded, sessions) := storage.load state.sessions occasion.now request.headers
      let state := { state with sessions }
      match loaded with
      | .ok (some context) =>
        let delivery := { delivery with attached := some context }
        { inner delivery (.inside (some context)) state with holder }
      | .ok none => { response := loginRedirect site request .empty, state, holder }
      | .error e =>
        if e.isContextUnreadable then
          let cleared := storage.clear state.sessions request.headers .empty
          { response := loginRedirect site request cleared.cookies
            state := { state with sessions := cleared.sessions }, holder }
        else
          { response := Http.plainResponse 500 "security context unavailable", state, holder }

end SignOn.Gate
