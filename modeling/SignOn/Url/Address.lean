import SignOn.Url.Basic

/-!
# Numeric hosts

An IPv4 address is one to four numbers, each decimal, octal after `0` or hexadecimal after `0x`; the
last number fills all octets that are left. An IPv6 address is eight hexadecimal pieces with colons
between them, the last two of which may be a dotted IPv4 address, and one run of zero pieces may be
left out between two colons.
-/

namespace SignOn.Url

/-- The number that digits stand for in a base, if all of them are digits of it. -/
def numeral? (base : Nat) (digit? : Char → Option Nat) : List Char → Option Nat
  | [] => some 0
  | cs => cs.foldl (fun n c => do
      let n ← n
      let d ← digit? c
      if d < base then some (n * base + d) else none) (some 0)

/-- The number that one part of an IPv4 address stands for. -/
def ipv4Number? (part : List Char) : Option Nat :=
  match part with
  | [] => none
  | '0' :: 'x' :: digits => numeral? 16 Text.hexDigit? digits
  | '0' :: 'X' :: digits => numeral? 16 Text.hexDigit? digits
  | '0' :: d :: digits => numeral? 8 Text.decimalDigit? (d :: digits)
  | _ => numeral? 10 Text.decimalDigit? part

/-- The parts of a dotted host, without the empty one after a final dot. -/
def dottedParts (host : List Char) : List (List Char) :=
  let parts := Text.splitOn '.' host
  if parts.getLast? = some [] then parts.dropLast else parts

/-- Whether the last part of a host is a number, so that the host has to be an IPv4 address. -/
def endsInNumber (host : List Char) : Bool :=
  match (dottedParts host).getLast? with
  | some part => (part ≠ [] && part.all fun c => (Text.decimalDigit? c).isSome) ||
      (ipv4Number? part).isSome
  | none => false

/-- The address that the numbers of a dotted host stand for. -/
def ipv4OfNumbers? (numbers : List Nat) : Option UInt32 :=
  match numbers.reverse with
  | [] => none
  | last :: front =>
    if 4 < numbers.length ∨ front.any (255 < ·) ∨ 1 <<< (8 * (4 - front.length)) ≤ last then none
    else
      let octets := front.reverse.zipIdx.map fun (octet, i) => octet <<< (8 * (3 - i))
      some (octets.foldl (· + ·) last).toUInt32

/-- The IPv4 address that a host stands for. -/
def parseIpv4? (host : List Char) : Option UInt32 := do
  let parts := dottedParts host
  if 4 < parts.length then none
  let numbers ← parts.mapM ipv4Number?
  ipv4OfNumbers? numbers

/-- One hexadecimal piece of an IPv6 address. -/
def ipv6Piece? (digits : List Char) : Option UInt16 :=
  if digits = [] ∨ 4 < digits.length then none
  else (numeral? 16 Text.hexDigit? digits).map Nat.toUInt16

/-- One number of a dotted address inside an IPv6 address: decimal, without leading zeros. -/
def plainOctet? (digits : List Char) : Option Nat :=
  match digits with
  | [] => none
  | '0' :: _ :: _ => none
  | _ => (numeral? 10 Text.decimalDigit? digits).filter (· < 256)

/-- The two pieces that a dotted address stands for. -/
def dottedPieces? (cs : List Char) : Option (List UInt16) := do
  match (← (Text.splitOn '.' cs).mapM plainOctet?) with
  | [a, b, c, d] => some [(a * 256 + b).toUInt16, (c * 256 + d).toUInt16]
  | _ => none

/-- The pieces of a run of groups; only the last group may be dotted. -/
def ipv6Groups? : List (List Char) → Option (List UInt16)
  | [] => some []
  | [group] => if '.' ∈ group then dottedPieces? group else (ipv6Piece? group).map ([·])
  | group :: groups => do
    let piece ← ipv6Piece? group
    let pieces ← ipv6Groups? groups
    pure (piece :: pieces)

/-- The pieces of one side of a double colon. -/
def ipv6Side? (cs : List Char) : Option (List UInt16) :=
  if cs = [] then some [] else ipv6Groups? (Text.splitOn ':' cs)

/-- Both sides of the first double colon. -/
def cutAtDoubleColon : List Char → Option (List Char × List Char)
  | ':' :: ':' :: rest => some ([], rest)
  | c :: rest => (cutAtDoubleColon rest).map fun (a, b) => (c :: a, b)
  | [] => none

/-- Eight pieces as an address. -/
def ipv6OfPieces? (pieces : List UInt16) : Option (Vector UInt16 8) :=
  if h : pieces.length = 8 then some ⟨pieces.toArray, by simp [h]⟩ else none

/-- The IPv6 address that a text stands for. -/
def parseIpv6? (cs : List Char) : Option (Vector UInt16 8) := do
  match cutAtDoubleColon cs with
  | none => ipv6OfPieces? (← ipv6Side? cs)
  | some (left, right) =>
    if '.' ∈ left then none
    let front ← ipv6Side? left
    let back ← ipv6Side? right
    if 7 < front.length + back.length then none
    ipv6OfPieces? (front ++ List.replicate (8 - (front.length + back.length)) 0 ++ back)

end SignOn.Url
