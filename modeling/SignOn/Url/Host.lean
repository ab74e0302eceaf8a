import SignOn.Idna.Domain
import SignOn.Url.Address

/-!
# Reading hosts

Brackets hold an IPv6 address. The host of a special scheme is a domain name, percent-decoded and
put into ASCII, or an IPv4 address if its last part is a number. The host of a general scheme is
kept as it is, with controls and characters beyond ASCII escaped.
-/

namespace SignOn.Url

/-- The IPv6 address between brackets; `none` for a text that does not begin with a bracket. -/
def bracketed? (cs : List Char) : Option (Except ParseError Host) :=
  match cs with
  | '[' :: rest =>
    some (if rest.getLast? = some ']' then
      match parseIpv6? rest.dropLast with
      | some pieces => .ok (.ipv6 pieces)
      | none => .error .invalidIpv6
    else .error .invalidIpv6)
  | _ => none

/-- The host that a domain name in ASCII stands for. -/
def hostOfDomain (name : List Char) : Except ParseError Host :=
  if name = [] then .error .emptyHost
  else if endsInNumber name then
    match parseIpv4? name with
    | some address => .ok (.ipv4 address)
    | none => .error .invalidIpv4
  else .ok (.domain (String.ofList name))

/-- The host of a special scheme. -/
def parseDomainHost (cs : List Char) : Except ParseError Host :=
  match bracketed? cs with
  | some result => result
  | none =>
    match (Octets.text? (Percent.decode (Octets.ofText (String.ofList cs)))).bind fun s =>
        Idna.toAscii? s.toList with
    | some name => hostOfDomain name
    | none => .error .invalidDomainName

/-- The characters that the host of a general scheme may not hold. -/
def isForbiddenInHost (c : Char) : Bool := "\x00\t\n\r #/:<>?@[\\]^|".toList.contains c

/-- The host of a general scheme. -/
def parseGeneralHost (cs : List Char) : Except ParseError Host :=
  match bracketed? cs with
  | some result => result
  | none =>
    if cs.any isForbiddenInHost then .error .invalidHostCharacter
    else if cs = [] then .ok .empty
    else .ok (.domain (Percent.encodeText keepsVisible (String.ofList cs)))

end SignOn.Url
