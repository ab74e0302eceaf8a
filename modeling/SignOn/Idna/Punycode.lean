/-!
# Punycode

A text with characters beyond ASCII is written in ASCII: its ASCII characters, a hyphen if there are
any, and for every other character, in the order of code points and places, the number of steps from
the one before it, as a numeral with digits of varying weight.
-/

namespace SignOn.Idna.Punycode

/-- The digit of a value below thirty-six. -/
def digit (n : Nat) : Char :=
  if n < 26 then Char.ofNat ('a'.toNat + n) else Char.ofNat ('0'.toNat + (n - 26))

/-- The value of a digit. -/
def value? (c : Char) : Option Nat :=
  if 'a' ≤ c ∧ c ≤ 'z' then some (c.toNat - 'a'.toNat)
  else if '0' ≤ c ∧ c ≤ '9' then some (c.toNat - '0'.toNat + 26)
  else none

/-- The threshold of the digit at a place, counted in steps of thirty-six from thirty-six on. -/
def threshold (place bias : Nat) : Nat :=
  if place ≤ bias then 1 else if bias + 26 ≤ place then 26 else place - bias

theorem threshold_pos (place bias : Nat) : 0 < threshold place bias := by
  unfold threshold
  split
  · omega
  · split <;> omega

theorem threshold_le (place bias : Nat) : threshold place bias ≤ 26 := by
  unfold threshold
  split
  · omega
  · split <;> omega

/-- Divide a step count until it is small, counting places. -/
def settle (delta place : Nat) : Nat :=
  if delta ≤ 455 then place + 36 * delta / (delta + 38) else settle (delta / 35) (place + 36)
termination_by delta
decreasing_by omega

/-- The bias after a numeral for `delta` steps, when `count` characters are there. -/
def adapt (delta count : Nat) (first : Bool) : Nat :=
  let delta := if first then delta / 700 else delta / 2
  settle (delta + delta / count) 0

/-- The digits of a number, from a place on. -/
def numeral (bias place n : Nat) : List Char :=
  let t := threshold place bias
  if n < t then [digit n]
  else digit (t + (n - t) % (36 - t)) :: numeral bias (place + 36) ((n - t) / (36 - t))
termination_by n
decreasing_by
  have ht := threshold_pos place bias
  have ht' := threshold_le place bias
  have : (n - threshold place bias) / (36 - threshold place bias) ≤ n - threshold place bias :=
    Nat.div_le_self _ _
  omega

/-- What encoding keeps between characters. -/
structure State where
  delta : Nat
  bias : Nat
  count : Nat
  digits : List Char

/-- Pass over one character of the text while the code point `n` is written. -/
def State.visit (basics n : Nat) (s : State) (c : Nat) : State :=
  if c < n then { s with delta := s.delta + 1 }
  else if c = n then
    { delta := 0
      bias := adapt s.delta (s.count + 1) (s.count == basics)
      count := s.count + 1
      digits := s.digits ++ numeral s.bias 36 s.delta }
  else s

/-- Write all code points of an ascending list, after those below `n` have been written. -/
def encodeFrom (basics : Nat) (text : List Nat) : Nat → State → List Nat → State
  | _, s, [] => s
  | n, s, m :: ms =>
    let s := text.foldl (State.visit basics m) { s with delta := s.delta + (m - n) * (s.count + 1) }
    encodeFrom basics text (m + 1) { s with delta := s.delta + 1 } ms

/-- Insert a number into an ascending list without repetition. -/
def insertNew (n : Nat) : List Nat → List Nat
  | [] => [n]
  | m :: ms => if n < m then n :: m :: ms else if n = m then m :: ms else m :: insertNew n ms

/-- The ASCII form of a text. -/
def encode (cs : List Char) : List Char :=
  let basics := cs.filter (·.toNat < 0x80)
  let text := cs.map Char.toNat
  let others := (text.filter (0x80 ≤ ·)).foldl (fun ms n => insertNew n ms) []
  let s := encodeFrom basics.length text 0x80 ⟨0, 72, basics.length, []⟩ others
  basics ++ (if basics = [] then [] else ['-']) ++ s.digits

/-- The number at the front of a list of digits, with the digits after it. -/
def readNumeral? (bias : Nat) : Nat → Nat → Nat → List Char → Option (Nat × List Char)
  | _, _, _, [] => none
  | place, weight, n, c :: cs => do
    let d ← value? c
    let t := threshold place bias
    if d < t then some (n + d * weight, cs)
    else readNumeral? bias (place + 36) (weight * (36 - t)) (n + d * weight) cs

theorem length_readNumeral? {bias place weight n : Nat} {cs : List Char} {r : Nat × List Char}
    (h : readNumeral? bias place weight n cs = some r) : r.2.length < cs.length := by
  induction cs generalizing place weight n with
  | nil => simp [readNumeral?] at h
  | cons c cs ih =>
    simp only [readNumeral?, Option.bind_eq_bind, Option.bind_eq_some_iff] at h
    obtain ⟨d, -, h⟩ := h
    split at h
    · rw [← Option.some.inj h]
      simp
    · have := ih h
      simp only [List.length_cons]
      omega

/-- Whether a number is the code point of a character. -/
def isCodePoint (n : Nat) : Bool := n < 0xD800 || (0xDFFF < n && n < 0x110000)

/-- Read numerals and insert the characters they stand for: `n` is the code point reached and `i`
the place. -/
def decodeFrom? (n i bias : Nat) (text : List Char) (cs : List Char) : Option (List Char) :=
  if cs = [] then some text
  else
    match _h : readNumeral? bias 36 1 0 cs with
    | none => none
    | some (delta, rest) =>
      let count := text.length + 1
      let n' := n + (i + delta) / count
      let i' := (i + delta) % count
      if isCodePoint n' then
        decodeFrom? n' (i' + 1) (adapt delta count (i == 0))
          (text.take i' ++ Char.ofNat n' :: text.drop i') rest
      else none
termination_by cs.length
decreasing_by exact length_readNumeral? _h

/-- Both sides of the last hyphen; a hyphen at the front counts as a digit. -/
def cutAtLastHyphen (cs : List Char) : List Char × List Char :=
  let tail := (cs.reverse.takeWhile (· ≠ '-')).reverse
  let front := cs.take (cs.length - tail.length - 1)
  if front = [] then ([], cs) else (front, tail)

/-- The text whose ASCII form is given. -/
def decode? (cs : List Char) : Option (List Char) :=
  let (basics, digits) := cutAtLastHyphen cs
  if basics.all (·.toNat < 0x80) then decodeFrom? 0x80 0 72 basics digits else none

end SignOn.Idna.Punycode
