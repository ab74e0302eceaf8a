import SignOn.Error
import SignOn.Http.Headers
import SignOn.Text.Quoted
import SignOn.Url.Parse

/-!
# Origin of the site

URLs that lead back to the application start with the scheme and host that the request was addressed
to. They come from a configured origin or from the request's header fields; the fields of a proxy
count only when the proxy is trusted.
-/

namespace SignOn

/-- The error of a text that is no URL. -/
def Error.ofParseError (e : Url.ParseError) : Error where
  kind := .invalidUrl e.message
  source := some e.message

/-- Scheme and host, with the port if it is not the usual one, of the application. -/
structure SiteOrigin where
  scheme : String
  host : String
  deriving DecidableEq

namespace SiteOrigin

/-- The origin that a configured URL names. -/
def ofText (text : String) : Except Error SiteOrigin :=
  match Url.parse text with
  | .error e => .error (.ofParseError e)
  | .ok url =>
    match url.hostText? with
    | none => .error { kind := .invalidUrl (text ++ " has no host") }
    | some host =>
      .ok {
        scheme := url.scheme
        host := match url.port? with
          | some port => host ++ ":" ++ toString port
          | none => host }

/-- The first of the comma-separated parts of a field's first value, if there is one. -/
def firstPart? (request : Http.Headers) (name : String) : Option String := do
  let text ← request.firstText? name
  let part ← (Text.splitOn ',' text.toList).head?
  let trimmed := Text.trimBy Text.isBlank part
  if trimmed = [] then none else some (String.ofList trimmed)

/-- The origin that a request was addressed to: its `Host`, else `localhost`. The scheme and host
that a proxy forwards come first if proxies are trusted. -/
def ofRequest (request : Http.Headers) (defaultScheme : String) (trustsProxy : Bool) : SiteOrigin :=
  let forwarded? (name : String) := if trustsProxy then firstPart? request name else none
  { scheme := (forwarded? "x-forwarded-proto").getD defaultScheme
    host := ((forwarded? "x-forwarded-host").or (firstPart? request "host")).getD "localhost" }

/-- The text of the origin as a URL. -/
def baseText (o : SiteOrigin) : String := o.scheme ++ "://" ++ o.host ++ "/"

/-- The origin as a URL. -/
def base (o : SiteOrigin) : Except Error Url := (Url.parse o.baseText).mapError .ofParseError

/-- A target as an absolute URL: one that is absolute stays as it is, any other is read at the
origin. -/
def absolute (o : SiteOrigin) (target : String) : Except Error String :=
  match Url.parse target with
  | .ok _ => .ok target
  | .error _ =>
    match o.base with
    | .error e => .error e
    | .ok base =>
      match base.join target with
      | .error e => .error (.ofParseError e)
      | .ok url => .ok url.text

/-- The origin as diagnostics show it. -/
def describe (o : SiteOrigin) : String :=
  Text.showRecord "RequestOrigin" [("scheme", Text.quote o.scheme), ("host", Text.quote o.host)]

end SiteOrigin

end SignOn
