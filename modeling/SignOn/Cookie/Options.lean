import SignOn.Text.Quoted

/-!
# Cookie attributes

Every cookie the library writes carries the same attributes, in a fixed order: domain and path, then
for a cookie that sets a value its lifetime, `Secure`, `HttpOnly` and the same-site policy. A cookie
is expired by an empty value with a lifetime of zero under the same domain and path.
-/

namespace SignOn.Cookie

/-- When a browser sends a cookie with requests from other sites. -/
inductive SameSite where
  | strict
  | lax
  | none
  deriving DecidableEq

/-- The spelling of a policy. -/
def SameSite.text : SameSite → String
  | strict => "Strict"
  | lax => "Lax"
  | none => "None"

/-- The attributes of written cookies. A lifetime is in seconds; without one a cookie ends with the
browser session. -/
structure Options where
  path : String := "/"
  domain : Option String := Option.none
  secure : Bool := true
  httpOnly : Bool := true
  sameSite : SameSite := .lax
  maxAge : Option Int := Option.none
  deriving DecidableEq

namespace Options

/-- The attributes that tell cookies of one name apart in a browser. -/
def scope (o : Options) : List String :=
  o.domain.toList.map ("Domain=" ++ ·) ++ ["Path=" ++ o.path]

/-- The attributes after the scope of a cookie that sets a value. -/
def policy (o : Options) : List String :=
  o.maxAge.toList.map (fun seconds => "Max-Age=" ++ toString seconds) ++
    (if o.secure then ["Secure"] else []) ++ (if o.httpOnly then ["HttpOnly"] else []) ++
    ["SameSite=" ++ o.sameSite.text]

/-- The field text that sets a cookie. -/
def setCookie (o : Options) (name value : String) : String :=
  Text.join "; " ((name ++ "=" ++ value) :: o.scope ++ o.policy)

/-- The field text that expires a cookie. -/
def expireCookie (o : Options) (name : String) : String :=
  Text.join "; " ((name ++ "=") :: o.scope ++ ["Max-Age=0"])

/-- The options as diagnostics show them. -/
def describe (o : Options) : String :=
  Text.showRecord "CookieOptions" [
    ("path", Text.quote o.path),
    ("domain", Text.showOption (o.domain.map Text.quote)),
    ("secure", Text.showBool o.secure),
    ("http_only", Text.showBool o.httpOnly),
    ("same_site", o.sameSite.text),
    ("max_age", Text.showOption (o.maxAge.map toString))]

end Options

end SignOn.Cookie
