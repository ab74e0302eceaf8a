import SignOn.Encoding.Percent
import SignOn.Http.Headers
import SignOn.Http.Target

/-!
# Requests and responses

Besides plain answers there are two kinds of responses: redirects, whose target is made safe for a
header field, and errors, which are plain texts that never echo what the request sent.
-/

namespace SignOn.Http

/-- A request. -/
structure Request where
  method : String
  target : Target
  headers : Headers

/-- A response. -/
structure Response where
  status : Nat
  headers : Headers := .empty
  body : String := ""

/-- The field that tells where a redirect leads. -/
def locationField : String := "location"

/-- A redirect target for the `Location` field: visible ASCII stays as it is, every other character
is percent-encoded. -/
def encodeTarget (target : String) : String :=
  String.ofList (target.toList.flatMap fun c =>
    (String.utf8EncodeChar c).flatMap (Percent.encodeOctet Percent.isGraphic))

/-- A header field of one name. -/
def Headers.single (name : String) (value : Option FieldValue) : Headers :=
  value.elim .empty (Headers.empty.append name)

/-- The field value of an encoded redirect target; a target that cannot stand in a field would lead
to the root. -/
def locationValue (target : String) : Option FieldValue :=
  (FieldValue.ofText? (encodeTarget target)).or (FieldValue.ofText? "/")

/-- A redirect that also sets or expires cookies. -/
def redirect (target : String) (cookies : Headers) : Response where
  status := 302
  headers := (Headers.single locationField (locationValue target)).extend cookies

/-- The fields of a plain text. -/
def plainHeaders : Headers :=
  Headers.single "content-type" (FieldValue.ofText? "text/plain; charset=utf-8")

/-- A plain text as the whole answer. -/
def plainResponse (status : Nat) (body : String) : Response where
  status
  headers := plainHeaders
  body

end SignOn.Http
