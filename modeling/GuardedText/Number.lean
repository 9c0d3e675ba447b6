/-! Binary numbers of 64 bits, taken apart into their fields: no number, an infinity, or a sign, a
scale and a fraction. Each finite number has one form, apart from zero, which has two signs. -/

namespace GuardedText

/-- A finite number is `significand * 2 ^ exponent` with its sign. -/
inductive Number where
  | nan
  | infinite (negative : Bool)
  | finite (negative : Bool) (scale : Fin 0x7FF) (fraction : Fin 0x10000000000000)
  deriving DecidableEq, Repr

namespace Number

/-- One more than the greatest fraction; the bit that normal numbers have above it. -/
def leadingBit : Nat := 0x10000000000000

/-- Numbers of the least scale have no leading bit. -/
def significand (scale fraction : Nat) : Nat :=
  if scale = 0 then fraction else fraction + leadingBit

/-- The two least scales share an exponent. -/
def exponent (scale : Nat) : Int :=
  (if scale = 0 then 1 else (scale : Int)) - 1075

/-- The number that 64 bits encode: the sign, eleven bits of scale, and the fraction. -/
def ofBits (bits : UInt64) : Number :=
  let negative := 0x8000000000000000 ≤ bits.toNat
  let scale := bits.toNat / leadingBit % 0x800
  let fraction := bits.toNat % leadingBit
  if h : scale < 0x7FF then
    .finite negative ⟨scale, h⟩ ⟨fraction, Nat.mod_lt _ (by decide)⟩
  else if fraction = 0 then .infinite negative
  else .nan

def zero : Number := .finite false 0 0

/-- A whole number, exact up to 53 bits; bits below those are dropped. -/
def ofNat (n : Nat) : Number :=
  let top := n.log2
  if n = 0 then zero
  else if h : top + 1023 < 0x7FF then
    .finite false ⟨top + 1023, h⟩
      ⟨(n <<< (52 - top)) >>> (top - 52) % leadingBit, Nat.mod_lt _ (by decide)⟩
  else .infinite false

def isNaN : Number → Bool
  | .nan => true
  | _ => false

def isZero : Number → Bool
  | .finite _ scale fraction => scale == 0 && fraction == 0
  | _ => false

/-- The whole number towards zero. -/
def truncate? : Number → Option Int
  | .finite negative scale fraction =>
    let e := exponent scale
    let n := (significand scale fraction <<< e.toNat) >>> (-e).toNat
    some (if negative then -(n : Int) else (n : Int))
  | _ => none

end Number

end GuardedText
