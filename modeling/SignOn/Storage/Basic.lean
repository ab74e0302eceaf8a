import SignOn.Cipher
import SignOn.Cookie.Lookup
import SignOn.Cookie.Response
import SignOn.Session.Key
import SignOn.Session.Store
import SignOn.Storage.Method

/-!
# Keeping contexts between requests

A storage loads, saves and clears the security context that belongs to a request. The cookie storage
keeps it sealed in a cookie and writes the session id and the endpoint to two more cookies for
scripts of the application. The session storage keeps it on the server, under a key that a cookie
holds; saving always draws a new key and drops the session that the request presented. What is kept
but cannot be read is an error and never taken for nothing.
-/

namespace SignOn

/-- A way to keep contexts, with the attributes of the cookies it writes. -/
structure Storage where
  method : StorageMethod
  cipher : Cipher
  cookieOptions : Cookie.Options

/-- What saving or clearing did: its outcome, the cookies of the response and the sessions. Cookies
written before a failure stay. -/
structure Stored where
  outcome : Except Error Unit := .ok ()
  cookies : Http.Headers
  sessions : SessionStore

/-- Random values for one save. -/
structure Fresh where
  nonce : Nonce
  sessionKey : Vector UInt8 16

namespace Storage

/-- The cookies of the cookie storage. -/
def cookieNames : List String :=
  [Cookie.contextName, Cookie.sessionIdName, Cookie.endpointName]

/-- The key of the server session that a request presents. -/
def presentedKey? (request : Http.Headers) : Option String :=
  Cookie.findNonempty? request Cookie.serverSessionName

/-- The context in the cookie of a request. -/
def loadCookie (cipher : Cipher) (request : Http.Headers) : Except Error (Option SecurityContext) :=
  match Cookie.findNonempty? request Cookie.contextName with
  | none => .ok none
  | some sealedText =>
    match cipher.decrypt sealedText with
    | .error e => .error e
    | .ok octets =>
      match SecurityContext.ofJson octets with
      | .ok context => .ok (some context)
      | .error _ => .error { kind := .contextUnreadable "invalid security context" }

/-- The context that is kept for a request, and the sessions afterwards. -/
def load (s : Storage) (sessions : SessionStore) (now : Int) (request : Http.Headers) :
    Except Error (Option SecurityContext) × SessionStore :=
  match s.method with
  | .cookie => (loadCookie s.cipher request, sessions)
  | .session =>
    match presentedKey? request with
    | none => (.ok none, sessions)
    | some key =>
      let (context, sessions) := sessions.get now key
      (.ok context, sessions)

/-- Append cookies one after the other, up to the first that cannot be written. -/
def appendCookies (o : Cookie.Options) (cookies : Http.Headers) :
    List (String × String) → Except Error Unit × Http.Headers
  | [] => (.ok (), cookies)
  | (name, value) :: rest =>
    match Cookie.append cookies o name value with
    | .ok cookies => appendCookies o cookies rest
    | .error e => (.error e, cookies)

/-- The cookies that keep a context. -/
def contextCookies (cipher : Cipher) (nonce : Nonce) (context : SecurityContext) :
    List (String × String) := [
  (Cookie.contextName, cipher.encrypt nonce (Octets.ofText context.json)),
  (Cookie.sessionIdName, context.sessionId),
  (Cookie.endpointName, context.endpoint.text)]

/-- The sessions without the one that a request presents. -/
def withoutPresented (sessions : SessionStore) (request : Http.Headers) : SessionStore :=
  (presentedKey? request).elim sessions sessions.erase

/-- Keep a context for later requests. -/
def save (s : Storage) (sessions : SessionStore) (now : Int) (fresh : Fresh)
    (request cookies : Http.Headers) (context : SecurityContext) : Stored :=
  match s.method with
  | .cookie =>
    let (outcome, cookies) :=
      appendCookies s.cookieOptions cookies (contextCookies s.cipher fresh.nonce context)
    { outcome, cookies, sessions }
  | .session =>
    let sessions := withoutPresented sessions request
    let key := SessionKey.ofRandom fresh.sessionKey
    match Cookie.append cookies s.cookieOptions Cookie.serverSessionName key with
    | .ok cookies => { cookies, sessions := sessions.put now key context }
    | .error e => { outcome := .error e, cookies, sessions }

/-- Forget the context that is kept for a request. -/
def clear (s : Storage) (sessions : SessionStore) (request cookies : Http.Headers) : Stored :=
  match s.method with
  | .cookie =>
    { cookies := Cookie.appendAllExpired cookies s.cookieOptions cookieNames, sessions }
  | .session =>
    { cookies := Cookie.appendExpired cookies s.cookieOptions Cookie.serverSessionName
      sessions := withoutPresented sessions request }

/-- The storage as diagnostics show it. -/
def describe (s : Storage) : String :=
  match s.method with
  | .cookie => Text.showRecord "CookieSecurityContextStorage" [
      ("cipher", s.cipher.describe), ("options", s.cookieOptions.describe)]
  | .session => Text.showOpenRecord "SessionSecurityContextStorage" [
      ("options", s.cookieOptions.describe)]

/-- Loading fails only on a context that is kept but cannot be read. -/
theorem isContextUnreadable_of_load {s : Storage} {sessions : SessionStore} {now : Int}
    {request : Http.Headers} {e : Error} (h : (s.load sessions now request).1 = .error e) :
    e.isContextUnreadable = true := by
  unfold load at h
  split at h
  · simp only [loadCookie] at h
    split at h
    · cases h
    split at h
    · next hd =>
      obtain rfl := Except.error.inj h
      exact Cipher.isContextUnreadable_of_decrypt hd
    split at h
    · cases h
    · obtain rfl := Except.error.inj h
      rfl
  · split at h
    · cases h
    · cases h

end Storage

end SignOn
