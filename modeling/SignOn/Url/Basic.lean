import SignOn.Encoding.Percent

/-!
# URLs

A URL is a record of components, as the URL standard of the web describes them. An authority may
have an empty host, a path is either a list of segments or, for URLs such as `mailto:a@b`, a
rootless text. `Url.text` writes a URL; its components are stored in written form, so writing only
joins them.
-/

namespace SignOn

/-- The host of an authority. -/
inductive Host where
  | empty
  | domain (name : String)
  | ipv4 (address : UInt32)
  | ipv6 (pieces : Vector UInt16 8)
  deriving DecidableEq

/-- The part of a URL that names a server. A URL without user name has an empty one, and likewise
for the password; the port is absent when it is the usual one of the scheme. -/
structure Authority where
  username : String := ""
  password : String := ""
  host : Host
  port : Option Nat := none
  deriving DecidableEq

namespace Url

/-- The path of a URL. -/
inductive Path where
  /-- Segments, each after a slash. -/
  | rooted (segments : List String)
  /-- A text that is no list of segments; a URL with such a path cannot be a base. -/
  | rootless (text : String)
  deriving DecidableEq

end Url

/-- A URL. -/
structure Url where
  scheme : String
  authority : Option Authority
  path : Url.Path
  query : Option String := none
  fragment : Option String := none
  deriving DecidableEq

namespace Url

/-- Why a text is no URL. -/
inductive ParseError where
  | emptyHost
  | invalidDomainName
  | invalidPort
  | invalidIpv4
  | invalidIpv6
  | invalidHostCharacter
  | relativeWithoutBase
  | rootlessBase
  deriving DecidableEq

/-- The text shown for a parse error. -/
def ParseError.message : ParseError → String
  | emptyHost => "empty host"
  | invalidDomainName => "invalid international domain name"
  | invalidPort => "invalid port number"
  | invalidIpv4 => "invalid IPv4 address"
  | invalidIpv6 => "invalid IPv6 address"
  | invalidHostCharacter => "invalid domain character"
  | relativeWithoutBase => "relative URL without a base"
  | rootlessBase => "relative URL with a cannot-be-a-base base"

/-- The classes of schemes that are parsed differently. -/
inductive SchemeClass where
  /-- A scheme whose URLs always have a host. -/
  | network
  /-- The scheme `file`. -/
  | file
  /-- Any other scheme. -/
  | general
  deriving DecidableEq

/-- Schemes other than general ones read a backslash as a slash and have a path. -/
def SchemeClass.isSpecial : SchemeClass → Bool
  | general => false
  | _ => true

/-- The usual port of a network scheme. -/
def defaultPort? (scheme : String) : Option Nat :=
  if scheme = "http" ∨ scheme = "ws" then some 80
  else if scheme = "https" ∨ scheme = "wss" then some 443
  else if scheme = "ftp" then some 21
  else none

/-- The class of a scheme in lower case. -/
def schemeClass (scheme : String) : SchemeClass :=
  if scheme = "file" then .file else if (defaultPort? scheme).isSome then .network else .general

/-- The text of a path. -/
def Path.text : Path → String
  | rooted segments => String.ofList (segments.flatMap fun segment => '/' :: segment.toList)
  | rootless text => text

end Url

/-- The four numbers of an IPv4 address with dots between them. -/
def ipv4Text (address : UInt32) : String :=
  let n := address.toNat
  Text.join "." ([n / 0x1000000, n / 0x10000 % 0x100, n / 0x100 % 0x100, n % 0x100].map toString)

/-- The length of the run of zeros at the front. -/
def zeroRun (pieces : List UInt16) : Nat := (pieces.takeWhile (· = 0)).length

/-- The start and the length of the first longest run of zeros, counting positions from `i`; `best`
is the longest run so far. -/
def longestZeroRun (i : Nat) (best : Nat × Nat) : List UInt16 → Nat × Nat
  | [] => best
  | p :: rest =>
    let n := zeroRun (p :: rest)
    longestZeroRun (i + 1) (if best.2 < n then (i, n) else best) rest

/-- Hexadecimal pieces with colons between them. -/
def piecesText (pieces : List UInt16) : String :=
  Text.join ":" (pieces.map fun p => String.ofList (Text.hexNumeral p.toNat))

/-- The eight pieces of an IPv6 address, the first longest run of at least two zeros written as a
double colon. -/
def ipv6Text (address : Vector UInt16 8) : String :=
  let pieces := address.toList
  let (start, length) := longestZeroRun 0 (0, 0) pieces
  if length < 2 then piecesText pieces
  else piecesText (pieces.take start) ++ "::" ++ piecesText (pieces.drop (start + length))

/-- The text of a host. -/
def Host.text : Host → String
  | empty => ""
  | domain name => name
  | ipv4 address => ipv4Text address
  | ipv6 pieces => "[" ++ ipv6Text pieces ++ "]"

namespace Authority

/-- The text of the user name and password with the `@` after them; empty if both are. -/
def credentialsText (a : Authority) : String :=
  if a.username = "" ∧ a.password = "" then ""
  else a.username ++ (if a.password = "" then "" else ":" ++ a.password) ++ "@"

/-- The text of the port with the colon before it. -/
def portText (a : Authority) : String :=
  match a.port with
  | some port => ":" ++ toString port
  | none => ""

/-- The text of the host and the port. -/
def hostPortText (a : Authority) : String := a.host.text ++ a.portText

/-- The text of an authority. -/
def text (a : Authority) : String := a.credentialsText ++ a.hostPortText

/-- The authority without user name and password. -/
def withoutCredentials (a : Authority) : Authority := { a with username := "", password := "" }

end Authority

namespace Url

/-- What stands between the scheme and the path: the authority, or for a path that would read as one
a dot segment. -/
def authorityText (u : Url) : String :=
  match u.authority with
  | some a => "//" ++ a.text
  | none => if "//".toList.isPrefixOf u.path.text.toList then "/." else ""

/-- The text after a URL's path. -/
def tailText (u : Url) : String :=
  (match u.query with
    | some query => "?" ++ query
    | none => "") ++
  match u.fragment with
  | some fragment => "#" ++ fragment
  | none => ""

/-- The text of a URL. -/
def text (u : Url) : String := u.scheme ++ ":" ++ u.authorityText ++ u.path.text ++ u.tailText

/-- The class of a URL's scheme. -/
def kind (u : Url) : SchemeClass := schemeClass u.scheme

/-- The text of a URL's host, if it has one that is not empty. -/
def hostText? (u : Url) : Option String :=
  match u.authority with
  | some a => if a.host = .empty then none else some a.host.text
  | none => none

/-- The port of a URL, if it is not the usual one. -/
def port? (u : Url) : Option Nat := u.authority.bind (·.port)

/-- The port that a URL connects to. -/
def effectivePort? (u : Url) : Option Nat := u.port? <|> defaultPort? u.scheme

/-- The URL without user name and password. -/
def withoutCredentials (u : Url) : Url :=
  { u with authority := u.authority.map Authority.withoutCredentials }

/-- The characters that a query keeps; URLs of special schemes escape the apostrophe too. -/
def keepsInQuery (special : Bool) (b : UInt8) : Bool :=
  Percent.isGraphic b && b ≠ 0x22 && b ≠ 0x23 && b ≠ 0x3C && b ≠ 0x3E && !(special && b = 0x27)

/-- The characters that a fragment keeps. -/
def keepsInFragment (b : UInt8) : Bool :=
  Percent.isGraphic b && b ≠ 0x22 && b ≠ 0x3C && b ≠ 0x3E && b ≠ 0x60

/-- The characters that a path segment keeps. -/
def keepsInPath (b : UInt8) : Bool :=
  keepsInFragment b && b ≠ 0x23 && b ≠ 0x3F && b ≠ 0x7B && b ≠ 0x7D

/-- The characters that user names and passwords keep. -/
def keepsInCredentials (b : UInt8) : Bool :=
  keepsInPath b && b ∉ [0x2F, 0x3A, 0x3B, 0x3D, 0x40, 0x5B, 0x5C, 0x5D, 0x5E, 0x7C]

/-- The characters that a rootless path or the host of a general scheme keeps: all but controls. -/
def keepsVisible (b : UInt8) : Bool := 0x20 ≤ b && b ≤ 0x7E

/-- The URL with a query in place of its own. -/
def withQuery (u : Url) (query : Option String) : Url :=
  { u with query := query.map (Percent.encodeText (keepsInQuery u.kind.isSpecial)) }

/-- The URL without its fragment. -/
def withoutFragment (u : Url) : Url := { u with fragment := none }

end Url

end SignOn
