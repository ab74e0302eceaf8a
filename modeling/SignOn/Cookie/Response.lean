import SignOn.Cookie.Options
import SignOn.Error
import SignOn.Http.Headers

/-!
# Cookies of a response

Cookies are set and expired by `Set-Cookie` fields, one per cookie, in the order of the calls. A
value that cannot stand in a header field is refused; an expiration that cannot is left out.
-/

namespace SignOn.Cookie

/-- The session id, for scripts of the application. -/
def sessionIdName : String := "force_sid"

/-- The endpoint, for scripts of the application. -/
def endpointName : String := "force_ep"

/-- The sealed security context. -/
def contextName : String := "security_context"

/-- The key of a session on the server. -/
def serverSessionName : String := "force_session"

/-- The cookies of the identity provider. -/
def providerNames : List String := ["sid", "sid_Client", "clientSrc"]

/-- The field that carries cookies of a response. -/
def setCookieField : String := "set-cookie"

/-- Set a cookie. -/
def append (response : Http.Headers) (o : Options) (name value : String) :
    Except Error Http.Headers :=
  match Http.FieldValue.ofText? (o.setCookie name value) with
  | some field => .ok (response.append setCookieField field)
  | none => .error {
      kind := .invalidInput ("cookie " ++ name ++ " has an invalid value")
      source := some "failed to parse header value" }

/-- Expire a cookie. -/
def appendExpired (response : Http.Headers) (o : Options) (name : String) : Http.Headers :=
  match Http.FieldValue.ofText? (o.expireCookie name) with
  | some field => response.append setCookieField field
  | none => response

/-- Expire several cookies. -/
def appendAllExpired (response : Http.Headers) (o : Options) (names : List String) : Http.Headers :=
  names.foldl (fun response name => appendExpired response o name) response

/-- The mark by which an expiration is told from a cookie that sets a value. -/
def expirationMark : String := "Max-Age=0"

/-- Whether a `Set-Cookie` text is about a cookie. -/
def isAbout (name field : String) : Bool := (name ++ "=").toList.isPrefixOf field.toList

/-- Whether a response expires a cookie. -/
def isExpiredIn (response : Http.Headers) (name : String) : Bool :=
  (response.texts setCookieField).any fun field =>
    isAbout name field && Text.contains field expirationMark

/-- The value that a response sets for a cookie, expirations left aside. -/
def valueSetIn? (response : Http.Headers) (name : String) : Option String :=
  (((response.texts setCookieField).filter fun field => !Text.contains field expirationMark).find?
    (isAbout name)).map fun field =>
      String.ofList ((field.toList.drop (name ++ "=").toList.length).takeWhile (· ≠ ';'))

end SignOn.Cookie
