import SignOn.Url.Parse

/-!
# Origins of URLs

The origin of a URL of a network scheme is its scheme, host and port, with the usual port left out.
A `blob` URL has the origin of the URL in its path. Every other origin is written `null`.
-/

namespace SignOn.Url

/-- The text of the origin of a URL whose scheme is no `blob`. -/
def serverOriginText (u : Url) : String :=
  match u.kind, u.authority with
  | .network, some a => u.scheme ++ "://" ++ a.hostPortText
  | _, _ => "null"

/-- The text of the origin of a URL that nests others fewer than `depth` times. -/
def nestedOriginText : Nat → Url → String
  | 0, _ => "null"
  | depth + 1, u =>
    if u.scheme = "blob" then
      match parse u.path.text with
      | .ok inner => nestedOriginText depth inner
      | .error _ => "null"
    else u.serverOriginText

/-- The text of a URL's origin. A URL is longer than the path in it, so the length of the path
bounds the nesting. -/
def originText (u : Url) : String := nestedOriginText (u.path.text.length + 1) u

end SignOn.Url
