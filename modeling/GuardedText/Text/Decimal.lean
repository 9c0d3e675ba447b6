import GuardedText.Number

/-! The shortest decimal text of a binary floating-point number: the fewest digits that read back,
of several the nearest, and of two equally near the even one. All comparisons are exact. -/

namespace GuardedText.Text.Decimal

/-- A positive number `m * 2 ^ q` with the bounds of what rounds to it, all over one denominator:
`low < num < high`, where the bounds themselves count iff `closed`. -/
structure Interval where
  num : Nat
  low : Nat
  high : Nat
  den : Nat
  closed : Bool

/-- The interval of a number with significand `m` and exponent `q`. The gap below a power of two is
half of the gap above it, save at the smallest exponent. -/
def Interval.ofParts (m : Nat) (q : Int) (halfGapBelow : Bool) : Interval :=
  let up := 1 <<< q.toNat
  let down := 1 <<< (-q).toNat
  { num := 4 * m * up
    low := (4 * m - if halfGapBelow then 1 else 2) * up
    high := (4 * m + 2) * up
    den := 4 * down
    closed := m % 2 == 0 }

def tenTo : Nat → Nat
  | 0 => 1
  | n + 1 => 10 * tenTo n

/-- The decimal exponent `e` with `10 ^ (e - 1) ≤ num / den < 10 ^ e`. -/
def magnitude (num den : Nat) : Int :=
  if den ≤ num then ((toString (num / den)).length : Int)
  else
    match (List.range 400).find? fun z => den ≤ num * tenTo (z + 1) with
    | some z => -(z : Int)
    | none => -400

/-- The two neighbours of the number on the grid of multiples of `10 ^ p`, nearer one first, as far
as they round to it. -/
def Interval.onGrid (v : Interval) (p : Int) : List Nat :=
  let scale := tenTo (-p).toNat
  let unit := v.den * tenTo p.toNat
  let below := v.num * scale / unit
  let inside (d : Nat) : Bool :=
    let x := d * unit
    if v.closed then v.low * scale ≤ x && x ≤ v.high * scale
    else v.low * scale < x && x < v.high * scale
  let toBelow := v.num * scale - below * unit
  let toAbove := (below + 1) * unit - v.num * scale
  let belowFirst := toBelow < toAbove || (toBelow == toAbove && below % 2 == 0)
  (if belowFirst then [below, below + 1] else [below + 1, below]).filter inside

/-- The digits of a number as a whole number `d` with the exponent `p`, so `d * 10 ^ p`. -/
def Interval.shortest (v : Interval) : Nat × Int :=
  let e := magnitude v.num v.den
  let grids := (List.range 17).map fun (k : Nat) => e - 1 - (k : Int)
  match grids.findSome? fun p => (v.onGrid p).head?.map (·, p) with
  | some found => found
  | none => (0, 0)

/-- The digits without the zeros at their end, and how many those were. -/
def dropZeros (digits : List Char) : List Char × Nat :=
  let kept := (digits.reverse.dropWhile (· = '0')).reverse
  (kept, digits.length - kept.length)

/-- Digits with the point after the first `e` of them: plain up to 21 digits before the point and
six zeros after it, else with an exponent of ten. -/
def place (digits : List Char) (e : Int) : String :=
  let k := (digits.length : Int)
  let zeros (n : Int) := List.replicate n.toNat '0'
  if k ≤ e ∧ e ≤ 21 then String.ofList (digits ++ zeros (e - k))
  else if 0 < e ∧ e ≤ 21 then
    String.ofList (digits.take e.toNat ++ '.' :: digits.drop e.toNat)
  else if -6 < e ∧ e ≤ 0 then String.ofList ('0' :: '.' :: zeros (-e) ++ digits)
  else
    let mantissa := match digits with
      | [] => []
      | [d] => [d]
      | d :: rest => d :: '.' :: rest
    String.ofList mantissa ++ (if 0 < e then "e+" else "e-") ++ toString (e - 1).natAbs

/-- The text of a positive finite number. -/
def ofFinite (scale fraction : Nat) : String :=
  let v := Interval.ofParts (Number.significand scale fraction) (Number.exponent scale)
    (fraction == 0 && 1 < scale)
  let (d, p) := v.shortest
  let (digits, dropped) := dropZeros (toString d).toList
  place digits ((digits.length : Int) + p + dropped)

/-- The decimal text of a number; zero has no sign. -/
def ofNumber (x : Number) : String :=
  match x with
  | .nan => "NaN"
  | .infinite negative => (if negative then "-" else "") ++ "Infinity"
  | .finite negative scale fraction =>
    if x.isZero then "0"
    else (if negative then "-" else "") ++ ofFinite scale fraction

end GuardedText.Text.Decimal
