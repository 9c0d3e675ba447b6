import GuardedText.Cipher.Aes

/-! Galois counter mode: a text is added to the blocks that the cipher makes of a counter, and a tag
is computed from the sealed text, so that what was changed or belongs to another key is refused. A
block stands for a polynomial over the field of two elements, modulo x^128 + x^7 + x^2 + x + 1, with
the constant coefficient in its first bit. -/

namespace GuardedText.Cipher.Gcm

/-- The number that bytes write, the highest first. -/
def numberOf (bytes : List UInt8) : Nat :=
  bytes.foldl (fun n b => 0x100 * n + b.toNat) 0

/-- The lowest bytes of a number, the highest first. -/
def bytesOf : (count n : Nat) → List UInt8
  | 0, _ => []
  | count + 1, n => bytesOf count (n / 0x100) ++ [UInt8.ofNat n]

/-- The block that at most 16 bytes and zeros after them make. -/
def blockOf (bytes : List UInt8) : BitVec 128 :=
  BitVec.ofNat 128 (numberOf (bytes ++ List.replicate (16 - bytes.length) 0))

/-- The bytes in pieces of 16; the last may be shorter. -/
def pieces (bytes : List UInt8) : List (List UInt8) :=
  (List.range ((bytes.length + 15) / 16)).map fun i => (bytes.drop (16 * i)).take 16

/-- What takes the place of the power 128 of x. -/
def reduction : BitVec 128 := 0xE1000000000000000000000000000000#128

/-- The product of two polynomials. -/
def product (a b : BitVec 128) : BitVec 128 :=
  ((List.range 128).foldl (fun (sum, power) i =>
    (if a.getMsbD i then sum ^^^ power else sum,
      if power.getLsbD 0 then (power >>> 1) ^^^ reduction else power >>> 1)) (0#128, b)).1

/-- The polynomial of which the blocks are the coefficients, highest first and without a constant
one, at the point `h`. -/
def hash (h : BitVec 128) (blocks : List (BitVec 128)) : BitVec 128 :=
  blocks.foldl (fun sum block => product (sum ^^^ block) h) 0#128

/-- The block of a nonce of 12 bytes and a counter. -/
def counterBlock (nonce : List UInt8) (counter : Nat) : List UInt8 :=
  nonce ++ bytesOf 4 counter

/-- A text with the blocks of the counter added, which seals and unseals it. -/
def crypt (key nonce text : List UInt8) : List UInt8 :=
  (pieces text).zipIdx.flatMap fun (piece, i) =>
    Aes.add piece (Aes.encrypt key (counterBlock nonce (i + 2)))

/-- The tag of a sealed text. -/
def tag (key nonce text : List UInt8) : List UInt8 :=
  let h := blockOf (Aes.encrypt key (List.replicate 16 0))
  let sum := hash h ((pieces text).map blockOf ++ [BitVec.ofNat 128 (8 * text.length)])
  Aes.add (bytesOf 16 sum.toNat) (Aes.encrypt key (counterBlock nonce 1))

/-- The text that was sealed under a key, if the tag bears it out. -/
def unseal? (key nonce text expected : List UInt8) : Option (List UInt8) :=
  if tag key nonce text = expected then some (crypt key nonce text) else none

end GuardedText.Cipher.Gcm
