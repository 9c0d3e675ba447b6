/-! The block cipher AES under a key of 32 bytes. Blocks and round keys are lists of 16 bytes. A
byte stands for a polynomial over the field of two elements, modulo x^8 + x^4 + x^3 + x + 1; the sum
of two of them is `^^^`. -/

namespace GuardedText.Cipher.Aes

/-- The product with the polynomial x. -/
def double (a : UInt8) : UInt8 :=
  if a < 0x80 then a <<< 1 else (a <<< 1) ^^^ 0x1B

/-- The product of two polynomials, by the bits of the second from the highest down. -/
def product (a b : UInt8) : UInt8 :=
  [7, 6, 5, 4, 3, 2, 1, 0].foldl (fun sum i =>
    if (b >>> i) &&& 1 = 1 then double sum ^^^ a else double sum) 0

/-- The power 254, which is the inverse of all but zero. It is the product of the powers 2, 4, and
so on up to 128. -/
def inverse (a : UInt8) : UInt8 :=
  let square := product a a
  ([4, 8, 16, 32, 64, 128].foldl (fun (power : UInt8 × UInt8) _ =>
    let square := product power.2 power.2
    (product power.1 square, square)) (square, square)).1

def rotate (a n : UInt8) : UInt8 :=
  (a <<< n) ||| (a >>> (8 - n))

/-- The substitution for a byte. -/
def substitute (a : UInt8) : UInt8 :=
  let b := inverse a
  b ^^^ rotate b 1 ^^^ rotate b 2 ^^^ rotate b 3 ^^^ rotate b 4 ^^^ 0x63

/-- The bytes of two lists, added in pairs. -/
def add (xs ys : List UInt8) : List UInt8 :=
  List.zipWith (· ^^^ ·) xs ys

/-- Each row of a block, which is every fourth byte, turned by its number. -/
def shiftRows (block : List UInt8) : List UInt8 :=
  (List.range 16).map fun i => block.getD (5 * i % 16) 0

/-- The columns of a block, which are four bytes each, each mixed within itself. -/
def mixColumns : List UInt8 → List UInt8
  | a :: b :: c :: d :: rest =>
    let all := a ^^^ b ^^^ c ^^^ d
    (a ^^^ all ^^^ double (a ^^^ b)) :: (b ^^^ all ^^^ double (b ^^^ c)) ::
      (c ^^^ all ^^^ double (c ^^^ d)) :: (d ^^^ all ^^^ double (d ^^^ a)) :: mixColumns rest
  | _ => []

/-- The words of a round key, each added to the new word before it; the first is added to `word`. -/
def chain (word : List UInt8) : List UInt8 → List UInt8
  | a :: b :: c :: d :: rest =>
    let next := add word [a, b, c, d]
    next ++ chain next rest
  | _ => []

/-- The last word of a round key. -/
def lastWord (key : List UInt8) : List UInt8 :=
  key.drop 12

/-- The word turned by one byte, with a constant added to its first byte. -/
def turned (constant : UInt8) : List UInt8 → List UInt8
  | a :: rest => add (rest ++ [a]) [constant, 0, 0, 0]
  | [] => []

/-- Round keys that begin with the two given ones, `2 * pairs + 1` in all. -/
def expand : (pairs : Nat) → (constant : UInt8) → (first second : List UInt8) →
    List (List UInt8)
  | 0, _, first, _ => [first]
  | pairs + 1, constant, first, second =>
    let third := chain (turned constant ((lastWord second).map substitute)) first
    first :: second :: expand pairs (double constant) third
      (chain ((lastWord third).map substitute) second)

/-- The round keys of a key. -/
def roundKeys (key : List UInt8) : List (List UInt8) :=
  expand 7 1 (key.take 16) (key.drop 16)

/-- One round for each key; the last does not mix columns. -/
def rounds : (keys : List (List UInt8)) → (block : List UInt8) → List UInt8
  | [], block => block
  | [last], block => add last (shiftRows (block.map substitute))
  | key :: keys, block =>
    rounds keys (add key (mixColumns (shiftRows (block.map substitute))))

/-- The block that a block becomes under a key. -/
def encrypt (key block : List UInt8) : List UInt8 :=
  match roundKeys key with
  | [] => block
  | first :: keys => rounds keys (add first block)

end GuardedText.Cipher.Aes
