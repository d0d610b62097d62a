/-
# `TurtleLogo.Decimal.Shortest` — the fewest digits that read back

Every real number in an interval around a floating-point number rounds to it.
On the decimal grids of one digit, two digits and so on the first grid with a
point in that interval is taken, and of two such points the nearer one.  Points
of a grid other than the two neighbours of the number need not be looked at.
-/
import TurtleLogo.Decimal.Binary

namespace TurtleLogo.Decimal

/-- The positive number `digits · 10 ^ (exponent + 1 - size)`, where `size` is the number of
digits: its leading digit counts `10 ^ exponent`. -/
structure Digits where
  digits : List Nat
  exponent : Int
deriving DecidableEq, Repr

/-- A positive dyadic number with the ends of its rounding interval, all in units of
`2 ^ unit`.  The ends round to it too if `closed` holds. -/
structure Rounding where
  low : Nat
  value : Nat
  high : Nat
  unit : Int
  closed : Bool
deriving DecidableEq, Repr

/-- The rounding interval of a positive number.  Below a power of two numbers lie twice as
close, except at the least exponent. -/
def Rounding.ofDyadic (d : Dyadic) : Rounding :=
  let narrow := d.mantissa == twoTo fractionBits && leastExponent < d.exponent
  { low := 4 * d.mantissa - (if narrow then 1 else 2)
    value := 4 * d.mantissa
    high := 4 * d.mantissa + 2
    unit := d.exponent - 2
    closed := d.mantissa % 2 == 0 }

/-- The fraction `n · 2 ^ unit / 10 ^ p`, with a natural numerator and denominator. -/
def onGrid (n : Nat) (unit p : Int) : Nat × Nat :=
  let (num, den) := scaleByTwo n 1 unit
  if 0 ≤ p then (num, den * tenTo p.toNat) else (num * tenTo (-p).toNat, den)

/-- Whether `10 ^ p ≤ n · 2 ^ unit`. -/
def reaches (n : Nat) (unit p : Int) : Bool :=
  let (num, den) := onGrid n unit p
  den ≤ num

/-- The exponent of the leading digit of `n · 2 ^ unit`. -/
def leadingExponent (n : Nat) (unit : Int) : Int :=
  let guess := ((n.log2 : Int) + unit) * 30103 / 100000
  if reaches n unit (guess + 1) then guess + 1
  else if reaches n unit guess then guess
  else guess - 1

/-- Whether the grid point `k · 10 ^ p` rounds to the number. -/
def Rounding.admits (r : Rounding) (k : Nat) (p : Int) : Bool :=
  let (lowNum, lowDen) := onGrid r.low r.unit p
  let (highNum, highDen) := onGrid r.high r.unit p
  if r.closed then lowNum ≤ k * lowDen && k * highDen ≤ highNum
  else lowNum < k * lowDen && k * highDen < highNum

/-- The grid point next to the number that rounds to it, if there is one: the nearer of the two
neighbours, and the even one if they are equally near. -/
def Rounding.point? (r : Rounding) (p : Int) : Option Nat :=
  let (num, den) := onGrid r.value r.unit p
  let below := num / den
  let above := below + 1
  let near := roundQuotient num den
  let far := if near == below then above else below
  if r.admits near p then some near
  else if r.admits far p then some far
  else none

/-- The first grid with a point, starting with `size` digits. -/
def Rounding.search (r : Rounding) (leading : Int) : Nat → Nat → Option (Nat × Int)
  | 0, _ => none
  | fuel + 1, size =>
    let p := leading + 1 - size
    match r.point? p with
    | some k => some (k, p)
    | none => search r leading fuel (size + 1)

/-- The decimal digits of a natural number, the last one first. -/
def reversedDigits (fuel n : Nat) : List Nat :=
  match fuel with
  | 0 => []
  | fuel + 1 => if n == 0 then [] else n % 10 :: reversedDigits fuel (n / 10)

/-- A grid point as digits, without zeros at the end. -/
def Digits.ofPoint (k : Nat) (p : Int) : Digits :=
  let all := reversedDigits (k.log2 + 1) k
  { digits := (all.dropWhile (· == 0)).reverse
    exponent := p + all.length - 1 }

/-- Seventeen digits always suffice. -/
def greatestSize : Nat := 17

def shortest (d : Dyadic) : Digits :=
  let r := Rounding.ofDyadic d
  let leading := leadingExponent r.value r.unit
  match r.search leading greatestSize 1 with
  | some (k, p) => Digits.ofPoint k p
  | none => ⟨[], 0⟩

end TurtleLogo.Decimal
