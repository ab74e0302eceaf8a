import SignOn.Text.Split

/-!
# Request targets

A request names its target as a path with an optional query, as a whole URL, as an authority, or as
an asterisk. Only the path and the query matter here; a fragment is dropped. A path is compared as
it was sent, without decoding.
-/

namespace SignOn.Http

/-- The target of a request. -/
structure Target where
  /-- The path as it was sent; empty for an authority, a slash when a URL has none. -/
  path : String
  query : Option String := none
  /-- The path and the query as they were sent; an authority has none. -/
  pathAndQuery : Option String
  deriving DecidableEq

namespace Target

/-- A target from the text of a path and a query. -/
def ofPathAndQuery (cs : List Char) : Target :=
  let sent := cs.takeWhile (· ≠ '#')
  let (path, query) := match Text.cutAt '?' sent with
    | some (path, query) => (path, some (String.ofList query))
    | none => (sent, none)
  { path := if path = [] then "/" else String.ofList path
    query
    pathAndQuery := some (if sent = [] then "/" else String.ofList sent) }

/-- What follows the first occurrence of `mark`. -/
def after? (mark : List Char) : List Char → Option (List Char)
  | [] => none
  | c :: cs =>
    if mark.isPrefixOf (c :: cs) then some ((c :: cs).drop mark.length) else after? mark cs

/-- The target that a text names. -/
def ofText (s : String) : Target :=
  match s.toList with
  | ['*'] => { path := "*", pathAndQuery := some "*" }
  | '/' :: cs => ofPathAndQuery ('/' :: cs)
  | cs =>
    match after? "://".toList cs with
    | some rest => ofPathAndQuery (rest.dropWhile fun c => c ≠ '/' ∧ c ≠ '?' ∧ c ≠ '#')
    | none => { path := "", pathAndQuery := none }

end Target

end SignOn.Http
