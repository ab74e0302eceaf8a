import SignOn.Config.Logout
import SignOn.Site

/-!
# Logging out

A logout ends the session at the provider, forgets everything that is kept about it here and sends
the browser on. What the provider answers makes no difference. Without a context there is nothing to
end, and only cookies are expired.
-/

namespace SignOn.Logout

/-- The context to log out, with the cookies and sessions after looking for it. -/
structure Found where
  context : Option SecurityContext
  cookies : Http.Headers := .empty
  sessions : SessionStore

/-- The held context, else the stored one; one that cannot be read is cleared. -/
def find (storage : Storage) (sessions : SessionStore) (now : Int) (request : Http.Headers)
    (holder : Holder) : Found :=
  match holder.context? with
  | some context => { context := some context, sessions }
  | none =>
    match storage.load sessions now request with
    | (.ok context, sessions) => { context, sessions }
    | (.error _, sessions) =>
      let cleared := storage.clear sessions request .empty
      { context := none, cookies := cleared.cookies, sessions := cleared.sessions }

/-- Where the browser goes: the target, through the logout page of the provider if the settings ask
for that and the page's URL can be built. -/
def destination (settings : LogoutSettings) (site : Site) (request : Http.Headers)
    (connection : Connection) : String :=
  if settings.fromProvider then
    match OAuthClient.logoutUrl (site.origin request) connection.endpoint settings.target with
    | .ok url => url.text
    | .error _ => settings.target
  else settings.target

/-- Expire the provider's cookies if the settings ask for that. -/
def expireProviderCookies (settings : LogoutSettings) (site : Site) (cookies : Http.Headers) :
    Http.Headers :=
  if settings.fromProvider then
    Cookie.appendAllExpired cookies site.cookieOptions Cookie.providerNames
  else cookies

/-- The calls that end a context's session: one if there is a session, else none. -/
def remoteCalls (context : SecurityContext) (connection : Connection) : List BackendCall :=
  if context.hasSession then [.logout connection] else []

/-- Log out the context of a request and send the browser on. -/
def serve (settings : LogoutSettings) (site : Site) (occasion : Occasion) : Handler :=
  fun delivery holder state =>
    let request := delivery.request.headers
    let storage := site.storage settings.storageMethod
    let found := find storage state.sessions occasion.now request holder
    match found.context with
    | none =>
      { response :=
          Http.redirect settings.target (expireProviderCookies settings site found.cookies)
        state := { state with sessions := found.sessions }, holder }
    | some context =>
      let connection := state.connections.resolve occasion.now context
      let cleared := storage.clear found.sessions request found.cookies
      { response := Http.redirect (destination settings site request connection)
          (expireProviderCookies settings site cleared.cookies)
        calls := remoteCalls context connection
        state := {
          sessions := cleared.sessions
          connections := state.connections.erase context.userId }
        holder := holder.release }

/-- The filter as diagnostics show it. -/
def describe (settings : LogoutSettings) : String :=
  Text.showOpenRecord "LogoutFilter" [("config", settings.describe)]

end SignOn.Logout
