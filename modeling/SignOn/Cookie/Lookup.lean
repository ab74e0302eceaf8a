import SignOn.Http.Headers

/-!
# Cookies of a request

A request sends cookies as `name=value` pairs separated by semicolons, in any number of `Cookie`
fields. The first pair with a name counts; parts without `=` and fields that are not text are passed
over.
-/

namespace SignOn.Cookie

/-- The name and the value of one part of a `Cookie` field. -/
def pair? (part : List Char) : Option (List Char × List Char) :=
  Text.cutAt '=' (Text.trimBy Text.isBlank part)

/-- The pairs of one `Cookie` field, in order. -/
def pairs (field : String) : List (List Char × List Char) :=
  (Text.splitOn ';' field.toList).filterMap pair?

/-- The pairs of all `Cookie` fields of a request, in order. -/
def requestPairs (request : Http.Headers) : List (List Char × List Char) :=
  (request.texts "cookie").flatMap pairs

/-- The value of the first pair with a name. -/
def find? (request : Http.Headers) (name : String) : Option String :=
  ((requestPairs request).find? fun pair => pair.1 = name.toList).map fun pair =>
    String.ofList pair.2

/-- The value of a cookie that is present and not empty. -/
def findNonempty? (request : Http.Headers) (name : String) : Option String :=
  (find? request name).filter (· ≠ "")

end SignOn.Cookie
