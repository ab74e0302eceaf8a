import SignOn.Url.Host

/-!
# Reading URLs

A text is read component by component: scheme, authority, path, query and fragment each have a
reader of their own on lists of characters. A text without a scheme is resolved against a base URL.
Blanks and controls around the text do not count, nor do tabs and line breaks inside it, with one
exception: in a file path such a break parts a drive letter from what follows it.

A path is read segment by segment along a `Trail`. A drive letter is not climbed above, whatever the
scheme; at the front of a file path it is written with a colon, and no server stands before it.
-/

namespace SignOn.Url

/-! ## Cleaning and schemes -/

/-- Whether a character is a tab or a line break. -/
def isBreak (c : Char) : Bool := c = '\t' || c = '\n' || c = '\r'

/-- A text without its tabs and line breaks. -/
def withoutBreaks (cs : List Char) : List Char := cs.filter (!isBreak ·)

/-- A text without the controls and blanks at its ends. -/
def clipped (s : String) : List Char := Text.trimBy (· ≤ ' ') s.toList

/-- Whether a character may stand in a scheme. -/
def isSchemeChar (c : Char) : Bool := c.isAlphanum || c = '+' || c = '-' || c = '.'

/-- The scheme before the first colon of a text, in lower case. -/
def scheme? (cs : List Char) : Option String :=
  match cs with
  | c :: _ =>
    if c.isAlpha ∧ (cs.dropWhile isSchemeChar).head? = some ':' then
      some (String.ofList ((cs.takeWhile isSchemeChar).map Char.toLower))
    else none
  | [] => none

/-! ## Paths -/

/-- The separators of path segments. -/
def isSlash (kind : SchemeClass) (c : Char) : Bool := c = '/' || (kind.isSpecial && c = '\\')

/-- The separators of special schemes: slashes and backslashes. -/
def isAnySlash (c : Char) : Bool := c = '/' || c = '\\'

/-- The pieces of a path text between slashes. -/
def rawSegments (kind : SchemeClass) (cs : List Char) : List (List Char) :=
  Text.splitOn '/' (cs.map fun c => if isSlash kind c then '/' else c)

/-- The spellings of a segment that stays in place. -/
def isSingleDot (segment : List Char) : Bool :=
  ["." , "%2e"].contains (String.ofList (segment.map Char.toLower))

/-- The spellings of a segment that goes up. -/
def isDoubleDot (segment : List Char) : Bool :=
  ["..", ".%2e", "%2e.", "%2e%2e"].contains (String.ofList (segment.map Char.toLower))

/-- Whether a segment is a drive letter: a letter and a colon or a bar. -/
def isDriveLetter (segment : List Char) : Bool :=
  match segment with
  | [c, d] => c.isAlpha && (d = ':' || d = '|')
  | _ => false

/-- Whether a segment is a drive letter as it is written: a letter and a colon. -/
def isNormalDriveLetter (segment : String) : Bool :=
  match segment.toList with
  | [c, ':'] => c.isAlpha
  | _ => false

/-- Whether a segment begins with a drive letter that ends it or stands before a backslash. -/
def beginsWithDriveLetter (segment : String) : Bool :=
  isDriveLetter (segment.toList.take 2) && (segment.toList.drop 2).head?.all (· = '\\')

/-- The written form of a path segment. -/
def segmentText (segment : List Char) : String :=
  Percent.encodeText keepsInPath (String.ofList segment)

/-- The drive letter at the front of a segment and the rest, which is not empty, if there is a break
after the colon. -/
def brokenDrive? (segment : List Char) : Option (String × List Char) :=
  match withoutBreaks segment, Text.cutAt ':' segment with
  | c :: ':' :: rest, some (_, d :: _) =>
    if c.isAlpha ∧ isBreak d ∧ rest ≠ [] then some (String.ofList [c, ':'], rest) else none
  | _, _ => none

/-- The segments that a path text has led to. -/
structure Trail where
  segments : List String := []
  /-- Whether the text has put a drive letter at the front of a file path. -/
  namesDrive : Bool := false

namespace Trail

/-- The way up: the last segment goes, unless it is a drive. -/
def climb (t : Trail) : Trail :=
  if t.segments.getLast?.any beginsWithDriveLetter then t
  else { t with segments := t.segments.dropLast }

/-- A dot segment at the end of a text leaves an empty last segment. -/
def stop (t : Trail) (last : Bool) : Trail :=
  if last then { t with segments := t.segments ++ [""] } else t

/-- Extend a trail by a segment of a text. A drive letter at the front of a file path is written
with a colon; a break after it ends the segment there, and the remainder is a segment as it stands.
-/
def enter (kind : SchemeClass) (t : Trail) (segment : List Char) (last : Bool) : Trail :=
  let text := withoutBreaks segment
  let atFront := kind = .file ∧ t.segments = []
  match if atFront then brokenDrive? segment else none with
  | some (drive, remainder) => { t with segments := [drive, segmentText remainder] }
  | none =>
    if isDoubleDot text then t.climb.stop last
    else if isSingleDot text then t.stop last
    else if atFront ∧ isDriveLetter text then
      { segments := [String.ofList (text.take 1 ++ [':'])], namesDrive := true }
    else { t with segments := t.segments ++ [segmentText text] }

/-- Extend a trail by the segments of a text. -/
def walk (kind : SchemeClass) : Trail → List (List Char) → Trail
  | t, [] => t
  | t, [segment] => t.enter kind segment true
  | t, segment :: next :: rest => walk kind (t.enter kind segment false) (next :: rest)

/-- The path at the end of a trail; that of a file URL has no empty segments at its front. -/
def path (kind : SchemeClass) (t : Trail) : List String :=
  if kind = .file then
    match t.segments.dropWhile (· = "") with
    | [] => [""]
    | segments => segments
  else t.segments

end Trail

/-- The path that a text leads to from a given path. The text has no slash at its front. -/
def follow (kind : SchemeClass) (segments : List String) (cs : List Char) : List String :=
  (Trail.walk kind { segments } (rawSegments kind cs)).path kind

/-- A path text without the slash at its front. -/
def dropSlash (kind : SchemeClass) (cs : List Char) : List Char :=
  if cs.head?.any (isSlash kind ·) then cs.drop 1 else cs

/-- The path after an authority: network URLs have at least one segment. -/
def pathAfterAuthority (kind : SchemeClass) (cs : List Char) : List String :=
  if cs = [] ∧ !kind.isSpecial then [] else follow kind [] (dropSlash kind cs)

/-! ## Authorities -/

/-- User name and password from the text before the last `@` of an authority. -/
def parseCredentials (cs : List Char) : String × String :=
  let written (cs : List Char) := Percent.encodeText keepsInCredentials (String.ofList cs)
  match Text.cutAt ':' cs with
  | some (username, password) => (written username, written password)
  | none => (written cs, "")

/-- Both sides of the last `@`. -/
def cutAtLastAt (cs : List Char) : Option (List Char × List Char) :=
  (Text.cutAt '@' cs.reverse).map fun (after, before) => (before.reverse, after.reverse)

/-- The host text at the front of a text, up to a colon outside brackets, and what follows. -/
def splitHost (inBrackets : Bool) : List Char → List Char × List Char
  | [] => ([], [])
  | c :: cs =>
    if c = ':' ∧ !inBrackets then ([], c :: cs)
    else
      let inBrackets := if c = '[' then true else if c = ']' then false else inBrackets
      let (host, rest) := splitHost inBrackets cs
      (c :: host, rest)

/-- The port after a colon, absent when it has no digits or is the usual one, and what follows. -/
def parsePort (scheme : String) (cs : List Char) : Except ParseError (Option Nat × List Char) :=
  let digits := cs.takeWhile fun c => (Text.decimalDigit? c).isSome
  let rest := cs.dropWhile fun c => (Text.decimalDigit? c).isSome
  let port := digits.foldl (fun n c => n * 10 + (Text.decimalDigit? c).getD 0) 0
  if 65535 < port then .error .invalidPort
  else if rest.head?.any (· ≠ '\\') then .error .invalidPort
  else .ok (if digits = [] ∨ defaultPort? scheme = some port then none else some port, rest)

/-- The host of a scheme class. -/
def parseHost (kind : SchemeClass) (cs : List Char) : Except ParseError Host :=
  if kind.isSpecial then (if cs = [] then .error .emptyHost else parseDomainHost cs)
  else parseGeneralHost cs

/-- The host and the port, and what is left for the path. -/
def parseHostPort (scheme : String) (cs : List Char) :
    Except ParseError (Host × Option Nat × List Char) := do
  let (hostText, rest) := splitHost false cs
  let host ← parseHost (schemeClass scheme) hostText
  match rest with
  | ':' :: portText =>
    if host = .empty then .error .emptyHost
    let (port, rest) ← parsePort scheme portText
    pure (host, port, rest)
  | _ => pure (host, none, rest)

/-- The characters that end an authority. -/
def endsAuthority (kind : SchemeClass) (c : Char) : Bool := isSlash kind c || c = '?' || c = '#'

/-- The authority of a text that follows a double slash, and what comes after it. -/
def parseAuthority (scheme : String) (cs : List Char) :
    Except ParseError (Authority × List Char) := do
  let front := cs.takeWhile (!endsAuthority (schemeClass scheme) ·)
  let rest := cs.dropWhile (!endsAuthority (schemeClass scheme) ·)
  match cutAtLastAt front with
  | none =>
    let (host, port, after) ← parseHostPort scheme front
    pure ({ host, port }, after ++ rest)
  | some (userinfo, hostPort) =>
    if userinfo = [] ∧ hostPort = [] ∧ rest ≠ [] then .error .emptyHost
    let (username, password) := parseCredentials userinfo
    let (host, port, after) ← parseHostPort scheme hostPort
    if host = .empty ∧ (username ≠ "" ∨ password ≠ "") then .error .emptyHost
    pure ({ username, password, host, port }, after ++ rest)

/-! ## Queries and fragments -/

/-- A text cut into the parts before its query, of its query and of its fragment. -/
def cutTail (cs : List Char) : List Char × Option (List Char) × Option (List Char) :=
  let (front, fragment) := match Text.cutAt '#' cs with
    | some (front, fragment) => (front, some fragment)
    | none => (cs, none)
  match Text.cutAt '?' front with
  | some (front, query) => (front, some query, fragment)
  | none => (front, none, fragment)

/-- The written form of a query. -/
def queryText (kind : SchemeClass) (cs : List Char) : String :=
  Percent.encodeText (keepsInQuery kind.isSpecial) (String.ofList cs)

/-- The written form of a fragment. -/
def fragmentText (cs : List Char) : String :=
  Percent.encodeText keepsInFragment (String.ofList cs)

/-- A URL whose path is computed from the part of a text before its query. -/
def assemble (scheme : String) (authority : Option Authority) (path : List Char → Path)
    (cs : List Char) : Url :=
  let (front, query, fragment) := cutTail cs
  { scheme, authority, path := path front
    query := query.map fun query => queryText (schemeClass scheme) (withoutBreaks query)
    fragment := fragment.map fun fragment => fragmentText (withoutBreaks fragment) }

/-! ## Whole URLs -/

/-- A URL from the text after the double slash that follows its scheme. -/
def parseAfterSlashes (scheme : String) (cs : List Char) : Except ParseError Url := do
  let (authority, rest) ← parseAuthority scheme cs
  pure (assemble scheme (some authority)
    (fun path => .rooted (pathAfterAuthority (schemeClass scheme) path)) rest)

/-- A URL of a general scheme, from the text after the colon. -/
def parseGeneral (scheme : String) (cs : List Char) : Except ParseError Url :=
  match cs with
  | '/' :: '/' :: rest => parseAfterSlashes scheme rest
  | '/' :: rest => .ok (assemble scheme none (fun path => .rooted (follow .general [] path)) rest)
  | _ => .ok (assemble scheme none
      (fun path => .rootless (Percent.encodeText keepsVisible (String.ofList path))) cs)

/-- The authority of a file URL without host. -/
def noServer : Authority := { host := .empty }

/-- The host of a file URL; `localhost` counts as none. -/
def parseFileHost (cs : List Char) : Except ParseError Host :=
  if cs = [] then .ok .empty
  else do
    let host ← parseDomainHost cs
    pure (if host = .domain "localhost" then .empty else host)

/-- Whether a text begins with a drive letter that is a whole segment. -/
def beginsWithDrive (cs : List Char) : Bool :=
  isDriveLetter (cs.take 2) &&
    ((cs.drop 2).head?.all fun c => isAnySlash c || c = '?' || c = '#')

/-- The drive letter at the front of the path of a base. -/
def baseDrive (base : Option Url) : List String :=
  match base with
  | some { path := .rooted (segment :: _), .. } =>
    if isNormalDriveLetter segment then [segment] else []
  | _ => []

/-- The authority of a base. -/
def baseServer (base : Option Url) : Authority := (base.bind (·.authority)).getD noServer

/-- The segments of a base's path. -/
def Path.segments : Path → List String
  | rooted segments => segments
  | rootless _ => []

/-- The trail of a file path after a host. After an empty one the slash at the front of the text
makes an empty segment, so that no drive letter is at the front. -/
def serverTrail (host : Host) (cs : List Char) : Trail :=
  Trail.walk .file {} (rawSegments .file (if host = .empty then cs else dropSlash .file cs))

/-- The path of a file URL whose text goes on from a drive letter at the end of the path of its
base: the first segment continues the letter, and a dot segment closes it. -/
def followDrive (front : List String) (drive : String) (cs : List Char) : List String :=
  let closed : Trail := { segments := front ++ [drive] }
  let trail := match rawSegments .file cs with
    | [] => closed
    | first :: rest =>
      let text := withoutBreaks first
      if isDoubleDot text then Trail.walk .file closed rest
      else if isSingleDot text then Trail.walk .file (closed.stop (rest = [])) rest
      else Trail.walk .file { segments := front ++ [drive ++ segmentText text] } rest
  trail.path .file

/-- The path that a text leads to from the path of a base that is a file URL. The last segment of
the base goes; a drive letter stays, as a segment of its own if nothing stands before it. -/
def followFile (segments : List String) (cs : List Char) : List String :=
  match segments.getLast? with
  | some last =>
    if !isNormalDriveLetter last then follow .file segments.dropLast cs
    else if segments.length = 1 then follow .file segments cs
    else followDrive segments.dropLast last cs
  | none => follow .file [] cs

/-- A file URL, from the text after the colon or from a text without scheme, with a base that is a
file URL. Tabs and line breaks are still in the text. -/
def parseFile (base : Option Url) (cs : List Char) : Except ParseError Url :=
  let file (authority : Authority) (path : List Char → List String) (cs : List Char) : Url :=
    assemble "file" (some authority) (fun text => .rooted (path text)) cs
  let hostPart (c : Char) := !(isAnySlash c || c = '?' || c = '#')
  /- The path after a single slash. -/
  let afterSlash (cs : List Char) : Url :=
    if beginsWithDrive (withoutBreaks cs) then file noServer (follow .file []) cs
    else if baseDrive base ≠ [] then file noServer (follow .file (baseDrive base)) cs
    else file (baseServer base) (follow .file []) cs
  match cs.dropWhile isBreak with
  | [] =>
    .ok (match base with
      | some base => base.withoutFragment
      | none => file noServer (follow .file []) [])
  | c :: rest =>
    if isAnySlash c then
      match rest.dropWhile isBreak with
      | d :: after =>
        if isAnySlash d then do
          let hostText := withoutBreaks (after.takeWhile hostPart)
          if isDriveLetter hostText then
            pure (file noServer (follow .file []) after)
          else
            let host ← parseFileHost hostText
            let after := after.dropWhile hostPart
            let named := (serverTrail host (cutTail after).1).namesDrive
            let server := if named then noServer else { host }
            pure (file server (fun text => (serverTrail host text).path .file) after)
        else .ok (afterSlash (d :: after))
      | [] => .ok (afterSlash [])
    else
      match base with
      | none => .ok (file noServer (follow .file []) (c :: rest))
      | some base =>
        if c = '?' then
          .ok (assemble "file" base.authority (fun _ => base.path) (c :: rest))
        else if c = '#' then
          .ok { base with fragment := some (fragmentText (withoutBreaks rest)) }
        else if beginsWithDrive (withoutBreaks (c :: rest)) then
          .ok (file noServer (follow .file []) (c :: rest))
        else .ok (file (baseServer (some base)) (followFile base.path.segments) (c :: rest))

/-- A URL of the scheme of its base, from a text without scheme; the base is not a file URL. -/
def parseRelative (base : Url) (cs : List Char) : Except ParseError Url :=
  match cs with
  | [] => .ok base.withoutFragment
  | '?' :: _ => .ok (assemble base.scheme base.authority (fun _ => base.path) cs)
  | '#' :: rest => .ok { base with fragment := some (fragmentText rest) }
  | c :: rest =>
    let pathFrom (segments : List String) (cs : List Char) : Url :=
      assemble base.scheme base.authority (fun path => .rooted (follow base.kind segments path)) cs
    if isAnySlash c then
      match rest with
      | d :: after =>
        if c = '/' ∧ d = '/' then parseAfterSlashes base.scheme after
        else if isAnySlash d then parseAfterSlashes base.scheme (cs.dropWhile isAnySlash)
        else .ok (pathFrom [] rest)
      | [] => .ok (pathFrom [] rest)
    else .ok (pathFrom base.path.segments.dropLast cs)

/-- A URL from the text after the colon of its scheme. -/
def parseWithScheme (base : Option Url) (scheme : String) (text : List Char) :
    Except ParseError Url :=
  let cs := withoutBreaks text
  match schemeClass scheme with
  | .general => parseGeneral scheme cs
  | .file => parseFile (base.filter (·.scheme = "file")) text
  | .network =>
    let slashes := (cs.takeWhile isAnySlash).length
    match base with
    | some base =>
      if slashes < 2 ∧ base.scheme = scheme then parseRelative base cs
      else parseAfterSlashes scheme (cs.dropWhile isAnySlash)
    | none => parseAfterSlashes scheme (cs.dropWhile isAnySlash)

/-- A URL from a text without scheme. -/
def parseWithoutScheme (base : Option Url) (text : List Char) : Except ParseError Url :=
  match base with
  | none => .error .relativeWithoutBase
  | some base =>
    let cs := withoutBreaks text
    match cs, base.path with
    | '#' :: rest, _ => .ok { base with fragment := some (fragmentText rest) }
    | _, .rootless _ => .error .rootlessBase
    | _, .rooted _ =>
      if base.kind = .file then parseFile (some base) text else parseRelative base cs

/-- The URL that a text stands for, relative to a base if there is one. -/
def parseFrom (base : Option Url) (s : String) : Except ParseError Url :=
  let text := clipped s
  match scheme? (withoutBreaks text), Text.cutAt ':' text with
  | some scheme, some (_, rest) => parseWithScheme base scheme rest
  | _, _ => parseWithoutScheme base text

/-- The URL that a text stands for. -/
def parse (s : String) : Except ParseError Url := parseFrom none s

/-- The URL that a text stands for when it is read at this URL. -/
def join (base : Url) (s : String) : Except ParseError Url := parseFrom (some base) s

end SignOn.Url
