import SignOn.Crypto.Aes256

/-!
# AES-256-GCM

Counter-mode encryption with an authentication tag over the ciphertext. There is no associated data,
the nonce has twelve octets and the tag sixteen. Decryption computes the tag anew and refuses a text
whose tag differs.
-/

namespace SignOn.Gcm

/-- The number of octets of a tag. -/
def tagLength : Nat := 16

/-- The counter block of a nonce and a number. -/
def counterBlock (nonce : Octets) (n : Nat) : Octets :=
  nonce ++ [(n / 0x1000000).toUInt8, (n / 0x10000).toUInt8, (n / 0x100).toUInt8, n.toUInt8]

/-- The key stream of as many blocks as asked for, from a counter on. -/
def keyStream (keys : List Octets) (nonce : Octets) : Nat → Nat → Octets
  | 0, _ => []
  | blocks + 1, counter =>
    Aes256.encryptBlock keys (counterBlock nonce counter) ++
      keyStream keys nonce blocks (counter + 1)

/-- A text added to the key stream. The stream is longer than the text, and doing this twice gives
the text back. -/
def crypt (keys : List Octets) (nonce text : Octets) : Octets :=
  Aes256.xor text (keyStream keys nonce (text.length / 16 + 1) 2)

/-- A block as a number, first octet most significant. -/
def blockBits (block : Octets) : BitVec 128 :=
  BitVec.ofNat 128 (block.foldl (fun n b => n * 256 + b.toNat) 0)

/-- The sixteen octets of a block. -/
def bitsOctets (x : BitVec 128) : Octets :=
  (List.range 16).map fun i => (x >>> (8 * (15 - i))).toNat.toUInt8

/-- The product in the field of 2¹²⁸ elements, by the bits of `x` from place `i` down. -/
def mulBits (x : BitVec 128) : Nat → BitVec 128 → BitVec 128 → BitVec 128
  | 0, _, product => product
  | i + 1, y, product =>
    let product' := if x.getLsbD i then product ^^^ y else product
    let y' := if y.getLsbD 0 then (y >>> 1) ^^^ 0xE1000000000000000000000000000000#128 else y >>> 1
    mulBits x i y' product'

/-- The product in the field with `x¹²⁸ + x⁷ + x² + x + 1 = 0`, bits in reflected order. -/
def mul (x y : BitVec 128) : BitVec 128 := mulBits x 128 y 0

/-- A block filled up with zeros. -/
def fillBlock (block : Octets) : Octets := block ++ List.replicate (16 - block.length) 0

/-- The block that closes the hash of a ciphertext: no associated data, then the length in bits. -/
def lengthBlock (octets : Nat) : BitVec 128 := BitVec.ofNat 128 (octets * 8)

/-- The polynomial hash of a ciphertext at the point `point`. -/
def hash (point : BitVec 128) (ciphertext : Octets) : BitVec 128 :=
  let y := (Aes256.chunks 16 ciphertext).foldl
    (fun y block => mul (y ^^^ blockBits (fillBlock block)) point) 0
  mul (y ^^^ lengthBlock ciphertext.length) point

/-- The tag of a ciphertext. -/
def tag (keys : List Octets) (nonce ciphertext : Octets) : Octets :=
  let point := blockBits (Aes256.encryptBlock keys (List.replicate 16 0))
  bitsOctets (hash point ciphertext ^^^ blockBits (Aes256.encryptBlock keys (counterBlock nonce 1)))

/-- The ciphertext of a text, followed by its tag. -/
def encrypt (keys : List Octets) (nonce text : Octets) : Octets :=
  let ciphertext := crypt keys nonce text
  ciphertext ++ tag keys nonce ciphertext

/-- The text of a ciphertext with its tag, refused unless the tag is right. -/
def decrypt? (keys : List Octets) (nonce sealed : Octets) : Option Octets :=
  if sealed.length < tagLength then none
  else
    let ciphertext := sealed.take (sealed.length - tagLength)
    if sealed.drop (sealed.length - tagLength) = tag keys nonce ciphertext then
      some (crypt keys nonce ciphertext)
    else none

end SignOn.Gcm
