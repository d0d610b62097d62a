/-
# `TurtleLogo.Decimal.Binary` — floating-point numbers taken apart and put together

A finite number is a sign, a natural mantissa and a power of two; nothing is
rounded on the way out.  On the way in a quotient of naturals goes to the
nearest representable number, a tie to the one with the even mantissa.
-/
namespace TurtleLogo.Decimal

/-- The number `± mantissa · 2 ^ exponent`. -/
structure Dyadic where
  negative : Bool
  mantissa : Nat
  exponent : Int
deriving DecidableEq, Repr

/-- A floating-point number by its kind. -/
inductive Parts where
  | notANumber
  | infinite (negative : Bool)
  | finite (value : Dyadic)
deriving DecidableEq, Repr

def twoTo (k : Nat) : Nat := Nat.pow 2 k

def tenTo (k : Nat) : Nat := Nat.pow 10 k

/-- The bits of the fraction field. -/
def fractionBits : Nat := 52

/-- The least exponent of a finite number. -/
def leastExponent : Int := -1074

/-- Takes a number apart. -/
def parts (x : Float) : Parts :=
  let bits := x.toBits.toNat
  let negative := twoTo 63 ≤ bits
  let fraction := bits % twoTo fractionBits
  let biased := bits / twoTo fractionBits % twoTo 11
  if biased == 2047 then
    if fraction == 0 then .infinite negative else .notANumber
  else if biased == 0 then .finite ⟨negative, fraction, leastExponent⟩
  else .finite ⟨negative, twoTo fractionBits + fraction, leastExponent + (biased - 1 : Nat)⟩

/-- Whether a number is neither infinite nor undefined. -/
def isFinite (x : Float) : Bool :=
  match parts x with
  | .finite _ => true
  | _ => false

/-- The natural number nearest to `num / den`, a tie to the even neighbour. -/
def roundQuotient (num den : Nat) : Nat :=
  let q := num / den
  let r := num % den
  if den < 2 * r || (2 * r == den && q % 2 == 1) then q + 1 else q

/-- The fraction `num / den · 2 ^ e`, with a natural numerator and denominator. -/
def scaleByTwo (num den : Nat) (e : Int) : Nat × Nat :=
  if 0 ≤ e then (num * twoTo e.toNat, den) else (num, den * twoTo (-e).toNat)

/-- The greatest `k` with `2 ^ k ≤ num / den`. -/
def floorLog2 (num den : Nat) : Int :=
  let guess : Int := (num.log2 : Int) - (den.log2 : Int)
  let (n, d) := scaleByTwo num den (-guess)
  if d ≤ n then guess else guess - 1

def infinityBits : Nat := 2047 * twoTo fractionBits

def infinity : Float := Float.ofBits (UInt64.ofNat infinityBits)

/-- The undefined number. -/
def undefined : Float := Float.ofBits (UInt64.ofNat (infinityBits + twoTo (fractionBits - 1)))

/-- The bits of the nonnegative number nearest to `num / den`.  A mantissa that rounds up to the
next power of two carries into the exponent field, which is where it belongs. -/
def nearestBits (num den : Nat) : Nat :=
  if num == 0 then 0
  else
    let e := max (floorLog2 num den - fractionBits) leastExponent
    let (n, d) := scaleByTwo num den (-e)
    min infinityBits (roundQuotient n d + (e - leastExponent).toNat * twoTo fractionBits)

/-- The number nearest to `± num / den`. -/
def ofRatio (negative : Bool) (num den : Nat) : Float :=
  Float.ofBits (UInt64.ofNat (nearestBits num den + if negative then twoTo 63 else 0))

/-- The number nearest to an integer. -/
def ofInt (n : Int) : Float :=
  ofRatio (n < 0) n.natAbs 1

def Dyadic.toFloat (d : Dyadic) : Float :=
  let (n, m) := scaleByTwo d.mantissa 1 d.exponent
  ofRatio d.negative n m

def Dyadic.ceil (d : Dyadic) : Int :=
  let (n, m) := scaleByTwo d.mantissa 1 d.exponent
  if d.negative then -(n / m : Nat) else ((n + m - 1) / m : Nat)

def Dyadic.floor (d : Dyadic) : Int :=
  let (n, m) := scaleByTwo d.mantissa 1 d.exponent
  if d.negative then -((n + m - 1) / m : Nat) else (n / m : Nat)

/-- What is left of the size of `d` after taking whole multiples of `n` away; it has the sign of
`d` and no rounding error. -/
def Dyadic.remainder (d : Dyadic) (n : Nat) : Dyadic :=
  if 0 ≤ d.exponent then
    ⟨d.negative, d.mantissa * twoTo d.exponent.toNat % n, 0⟩
  else
    ⟨d.negative, d.mantissa % (n * twoTo (-d.exponent).toNat), d.exponent⟩

/-- A number brought into the turn from zero to `n`: the remainder is taken toward zero, a
negative one is lifted by `n`, and nothing left is plain zero. -/
def wrap (x : Float) (n : Nat) : Float :=
  match parts x with
  | .finite d =>
    let r := d.remainder n
    if r.mantissa == 0 then 0.0
    else if d.negative then r.toFloat + ofInt n
    else r.toFloat
  | _ => undefined

end TurtleLogo.Decimal
