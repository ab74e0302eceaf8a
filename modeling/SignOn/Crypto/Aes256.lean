import SignOn.Octets

/-!
# AES-256

The block cipher over the field of 256 elements with `x⁸ + x⁴ + x³ + x + 1 = 0`. The state is a
list of sixteen octets in column order; the key schedule holds fifteen round keys of that shape.
-/

namespace SignOn.Aes256

/-- Multiplication by `x`. -/
def double (b : UInt8) : UInt8 := (b <<< 1) ^^^ (if b &&& 0x80 = 0 then 0 else 0x1B)

/-- Multiplication in the field, by the lowest `n` bits of the second factor. -/
def mulBits : Nat → UInt8 → UInt8 → UInt8
  | 0, _, _ => 0
  | n + 1, a, b => (if b &&& 1 = 0 then 0 else a) ^^^ mulBits n (double a) (b >>> 1)

/-- Multiplication in the field. -/
def mul (a b : UInt8) : UInt8 := mulBits 8 a b

/-- The inverse in the field, with zero for zero: the power with exponent 254. -/
def inverse (b : UInt8) : UInt8 :=
  let b2 := mul b b
  let b4 := mul b2 b2
  let b8 := mul b4 b4
  let b16 := mul b8 b8
  let b32 := mul b16 b16
  let b64 := mul b32 b32
  let b128 := mul b64 b64
  mul (mul (mul b2 b4) (mul b8 b16)) (mul (mul b32 b64) b128)

/-- Rotation to the left by fewer than eight bits. -/
def rotateLeft (b : UInt8) (n : UInt8) : UInt8 := (b <<< n) ||| (b >>> (8 - n))

/-- The affine image of the inverse. -/
def substitute (b : UInt8) : UInt8 :=
  let i := inverse b
  i ^^^ rotateLeft i 1 ^^^ rotateLeft i 2 ^^^ rotateLeft i 3 ^^^ rotateLeft i 4 ^^^ 0x63

/-- The substitution of every octet. -/
def substitutionTable : Array UInt8 := (Array.range 256).map fun n => substitute n.toUInt8

/-- The substitution, looked up. -/
def sBox (b : UInt8) : UInt8 := substitutionTable.getD b.toNat 0

/-- Octetwise sum in the field. -/
def xor (a b : Octets) : Octets := List.zipWith (· ^^^ ·) a b

/-- The order in which the rows, rotated by their number, are read column by column. -/
def rowOrder : List Nat := [0, 5, 10, 15, 4, 9, 14, 3, 8, 13, 2, 7, 12, 1, 6, 11]

/-- Rotate each row of the state by its number. -/
def shiftRows (state : Octets) : Octets := rowOrder.map fun i => state.getD i 0

/-- Multiply each column by the fixed matrix. -/
def mixColumns : Octets → Octets
  | a :: b :: c :: d :: rest =>
    (double a ^^^ double b ^^^ b ^^^ c ^^^ d) :: (a ^^^ double b ^^^ double c ^^^ c ^^^ d) ::
      (a ^^^ b ^^^ double c ^^^ double d ^^^ d) :: (double a ^^^ a ^^^ b ^^^ c ^^^ double d) ::
      mixColumns rest
  | _ => []

/-- The words of the key schedule after the first eight, newest first: each is the word eight places
before, added to the word before it, which is transformed at every fourth place. -/
def expand : Nat → UInt8 → List Octets → List Octets
  | 0, _, ws => ws
  | n + 1, constant, ws =>
    let i := ws.length
    let last := ws.getD 0 []
    let (word, constant') :=
      if i % 8 = 0 then
        (match last with
          | a :: rest => xor ((rest ++ [a]).map sBox) [constant, 0, 0, 0]
          | [] => [], double constant)
      else if i % 8 = 4 then (last.map sBox, constant)
      else (last, constant)
    expand n constant' (xor (ws.getD 7 []) word :: ws)

/-- A sequence cut into parts of `n`, the last one possibly shorter. -/
def chunks (n : Nat) (bs : Octets) : List Octets :=
  if _h : bs = [] ∨ n = 0 then [] else bs.take n :: chunks n (bs.drop n)
termination_by bs.length
decreasing_by
  have : bs.length ≠ 0 := by simpa using fun e => _h (.inl e)
  simp only [List.length_drop]
  omega

/-- The fifteen round keys of a key of thirty-two octets. -/
def roundKeys (key : Octets) : List Octets :=
  chunks 16 (expand 52 1 (chunks 4 key).reverse).reverse.flatten

/-- The rounds that follow the first key addition; the last one does not mix columns. -/
def rounds : List Octets → Octets → Octets
  | [], state => state
  | [last], state => xor (shiftRows (state.map sBox)) last
  | key :: keys, state => rounds keys (xor (mixColumns (shiftRows (state.map sBox))) key)

/-- The image of a block under the cipher with given round keys. -/
def encryptBlock (keys : List Octets) (block : Octets) : Octets :=
  match keys with
  | [] => block
  | first :: rest => rounds rest (xor block first)

end SignOn.Aes256
