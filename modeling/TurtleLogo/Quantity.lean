/-
# `TurtleLogo.Quantity` — numbers as they were given

Angles, distances, scales and delays may be given as whole numbers, as reals
or as truth values.  A whole number stays exact, and is written without a
point, until it meets a real; a truth value counts one or zero.

A whole number that is too large for the reals cannot meet one.  That is the
only way in which sums, differences, products and quotients fail, but for the
quotient of two whole numbers, which may be too large itself.
-/
import TurtleLogo.Decimal.Layout

namespace TurtleLogo

open Decimal

inductive ArithmeticFault where
  /-- a whole number is beyond the reals -/
  | tooLarge
  /-- the quotient of two whole numbers is beyond the reals -/
  | quotientTooLarge
  /-- the divisor is zero -/
  | zeroDivisor
  /-- an exponent of this type is not examined for being odd -/
  | exponentType (typeName : String)
deriving DecidableEq, Repr

/-- A whole number, a real one, or a truth value that stands for one. -/
inductive Quantity where
  | whole (n : Int)
  | real (x : Float)
  | truth (b : Bool)
deriving DecidableEq

def truthText (b : Bool) : String :=
  if b then "True" else "False"

/-- The real number nearest to a whole one. -/
def realOf (n : Int) : Except ArithmeticFault Float :=
  let x := ofInt n
  if isFinite x then .ok x else .error .tooLarge

namespace Quantity

instance : Inhabited Quantity := ⟨whole 0⟩

def text : Quantity → String
  | whole n => intText n
  | real x => Layout.full.text x
  | truth b => truthText b

def typeName : Quantity → String
  | whole _ => "int"
  | real _ => "float"
  | truth _ => "bool"

/-- A quantity as calculations see it: a whole number or a real one. -/
def value : Quantity → Int ⊕ Float
  | whole n => .inl n
  | real x => .inr x
  | truth b => .inl (if b then 1 else 0)

/-- The real number nearest to a quantity. -/
def toFloat (q : Quantity) : Except ArithmeticFault Float :=
  match q.value with
  | .inl n => realOf n
  | .inr x => .ok x

/-! ## Order

Nothing is rounded when a whole number is compared with a real one. -/

def wholeBelowReal (n : Int) (x : Float) : Bool :=
  match parts x with
  | .finite d => n < d.ceil
  | .infinite negative => !negative
  | .notANumber => false

def realBelowWhole (x : Float) (n : Int) : Bool :=
  match parts x with
  | .finite d => d.floor < n
  | .infinite negative => negative
  | .notANumber => false

def wholeIsReal (n : Int) (x : Float) : Bool :=
  match parts x with
  | .finite d => d.ceil == n && d.floor == n
  | _ => false

def lt (a b : Quantity) : Bool :=
  match a.value, b.value with
  | .inl m, .inl n => m < n
  | .inr x, .inr y => x < y
  | .inl m, .inr y => wholeBelowReal m y
  | .inr x, .inl n => realBelowWhole x n

def eq (a b : Quantity) : Bool :=
  match a.value, b.value with
  | .inl m, .inl n => m == n
  | .inr x, .inr y => x == y
  | .inl m, .inr y => wholeIsReal m y
  | .inr x, .inl n => wholeIsReal n x

def le (a b : Quantity) : Bool :=
  a.lt b || a.eq b

def isNegative (q : Quantity) : Bool :=
  q.lt (whole 0)

def isZero (q : Quantity) : Bool :=
  q.eq (whole 0)

/-! ## Arithmetic

Whole numbers are calculated with exactly.  As soon as a real takes part, both
operands are made reals. -/

/-- A calculation that is exact on whole numbers. -/
def combine (onWhole : Int → Int → Int) (onReal : Float → Float → Float) (a b : Quantity) :
    Except ArithmeticFault Quantity :=
  match a.value, b.value with
  | .inl m, .inl n => .ok (whole (onWhole m n))
  | .inr x, .inr y => .ok (real (onReal x y))
  | .inl m, .inr y => (realOf m).map fun x => real (onReal x y)
  | .inr x, .inl n => (realOf n).map fun y => real (onReal x y)

def add : Quantity → Quantity → Except ArithmeticFault Quantity :=
  combine (· + ·) (· + ·)

def sub : Quantity → Quantity → Except ArithmeticFault Quantity :=
  combine (· - ·) (· - ·)

def mul : Quantity → Quantity → Except ArithmeticFault Quantity :=
  combine (· * ·) (· * ·)

/-- The quotient of two whole numbers, rounded once. -/
def wholeQuotient (m n : Int) : Except ArithmeticFault Float :=
  let x := ofRatio (decide (m < 0) != decide (n < 0)) m.natAbs n.natAbs
  if isFinite x then .ok x else .error .quotientTooLarge

/-- The quotient of two quantities, always a real.  A zero divisor gives an infinity, or nothing
defined if the dividend is zero too. -/
def quotient (a b : Quantity) : Except ArithmeticFault Float :=
  match a.value, b.value with
  | .inl m, .inl n => if n = 0 then (realOf m).map (· / 0.0) else wholeQuotient m n
  | .inr x, .inr y => .ok (x / y)
  | .inl m, .inr y => (realOf m).map (· / y)
  | .inr x, .inl n => (realOf n).map (x / ·)

/-- The quotient of two quantities where the divisor must not be zero. -/
def div (a b : Quantity) : Except ArithmeticFault Float :=
  match a.quotient b with
  | .ok x => if b.isZero then .error .zeroDivisor else .ok x
  | .error fault => .error fault

def neg (q : Quantity) : Quantity :=
  match q.value with
  | .inl n => whole (-n)
  | .inr x => real (-x)

def abs (q : Quantity) : Quantity :=
  match q.value with
  | .inl n => whole n.natAbs
  | .inr x => real x.abs

/-- The least integer that is not below a quantity, if the quantity is finite.  A whole number
must not be beyond the reals. -/
def ceil? (q : Quantity) : Except ArithmeticFault (Option Int) :=
  match q.value with
  | .inl n => (realOf n).map fun _ => some n
  | .inr x =>
    match parts x with
    | .finite d => .ok (some d.ceil)
    | _ => .ok none

/-! ## Powers

The sign of a power can hang on whether the exponent is an odd integer, which can
be asked of reals only. -/

/-- Whether a real number is an odd integer. -/
def isOddReal (x : Float) : Bool :=
  match parts x with
  | .finite d => d.floor == d.ceil && d.floor % 2 == 1
  | _ => false

/-- A power that is too large to be calculated: negative for an odd power of a negative base.
Whether an exponent is odd is only known of reals. -/
def endlessPower (base exponent : Quantity) : Except ArithmeticFault Float :=
  if base.isNegative then
    match exponent with
    | real y => .ok (if isOddReal y then -infinity else infinity)
    | _ => .error (.exponentType exponent.typeName)
  else .ok infinity

/-- Whether the sign of `r`, the power of `x` to a finite `y`, hangs on the exponent being odd:
`r` is an infinity that comes from a zero or from a finite negative base. -/
def signHangsOnExponent (x y r : Float) : Bool :=
  (x == 0.0 && y < 0.0) || (x < 0.0 && isFinite x && r.isInf)

def power (base exponent : Quantity) : Except ArithmeticFault Float :=
  match base.toFloat, exponent.toFloat with
  | .ok x, .ok y =>
    let r := Float.pow x y
    match exponent with
    | real _ => .ok r
    | _ => if signHangsOnExponent x y r then .error (.exponentType exponent.typeName) else .ok r
  | _, _ => endlessPower base exponent

end Quantity

end TurtleLogo
