/-
# `TurtleLogo.Program.Evaluate` — the values of expressions

Operands are evaluated from left to right, and every operator checks the kinds
of its two operands once both are known.  Arithmetic on reals never fails:
division and powers follow the floating-point standard, with infinities and
undefined numbers for results.  Only whole numbers, which a program cannot
write down, may be too large for it.
-/
import TurtleLogo.Decimal.Reading
import TurtleLogo.Error
import TurtleLogo.Program.Record

namespace TurtleLogo

/-- The value of a scalar handed in from outside. -/
def Given.wrap : Given → Except Failure Scalar
  | .quantity (.truth b) => .ok (.boolean b)
  | .quantity q => (calculated q.toFloat).map fun x => .number (.real x)
  | .text s => .ok (.string s)
  | .scalar v => .ok v
  | other => .error (Failure.of (.unusable other.typeName))

/-- The kind of a value that is a scalar already; any other has none. -/
def Given.kind : Given → Except Failure Kind
  | .scalar v => .ok v.kind
  | other => .error (.defect (.unsupportedScalar other.record))

/-- The real number that a given value is or spells. -/
def Given.toFloat : Given → Except Failure Float
  | .quantity q => calculated q.toFloat
  | .text s =>
    match Decimal.readReal? s.toList with
    | some x => .ok x
    | none => .error (.defect (.notANumeral s))
  | other => .error (.defect (.neverANumeral other.typeName))

/-- The environment that binds given values, in their order, to the lower-case forms of their
names.  The first value that cannot be used is an error. -/
def Environment.extend (env : Environment) : List (String × Given) → Except Failure Environment
  | [] => .ok env
  | (name, given) :: rest =>
    match given.wrap with
    | .ok v => Environment.extend (Bindings.bind (Text.lower name) v env) rest
    | .error e => .error e

/-- The environment that binds given values. -/
def Environment.ofGiven (vars : List (String × Given)) : Except Failure Environment :=
  Environment.extend [] vars

/-- The number that a command reads from a value: a truth value counts one or zero. -/
def Scalar.asNumber (what : String) : Scalar → Except Failure Quantity
  | .number q => .ok q
  | .boolean b => .ok (.real (if b then 1.0 else 0.0))
  | .string _ => .error (Failure.of (.notANumber what .string))

def Operator.arithmetic? :
    Operator → Option (Quantity → Quantity → Except ArithmeticFault Quantity)
  | .add => some Quantity.add
  | .sub => some Quantity.sub
  | .mul => some Quantity.mul
  | .div => some fun a b => (a.quotient b).map .real
  | _ => none

/-- The two tests of a comparison operator, on numbers and on strings. -/
structure Comparison where
  numbers : Quantity → Quantity → Bool
  strings : String → String → Bool

/-- The comparison of an operator.  Strings are ordered by code points. -/
def Operator.comparison? : Operator → Option Comparison
  | .eq => some ⟨Quantity.eq, (· == ·)⟩
  | .ne => some ⟨fun a b => !a.eq b, (· != ·)⟩
  | .lt => some ⟨Quantity.lt, fun a b => a < b⟩
  | .gt => some ⟨fun a b => b.lt a, fun a b => b < a⟩
  | .le => some ⟨Quantity.le, fun a b => !decide (b < a)⟩
  | .ge => some ⟨fun a b => b.le a, fun a b => !decide (a < b)⟩
  | _ => none

/-- Both operands of an operator as numbers. -/
def bothNumbers (symbol : String) : Scalar → Scalar → Except Failure (Quantity × Quantity)
  | .number a, .number b => .ok (a, b)
  | .number _, rhs => .error (Failure.of (.operandKind symbol .right rhs.kind))
  | lhs, _ => .error (Failure.of (.operandKind symbol .left lhs.kind))

def Scalar.power (base exponent : Scalar) : Except Failure Scalar :=
  match bothNumbers "^" base exponent with
  | .ok (a, b) => (calculated (a.power b)).map fun x => .number (.real x)
  | .error e => .error e

/-- Applies an operator to two values within a chain of sums or products. -/
def Operator.calculate (op : Operator) (lhs rhs : Scalar) : Except Failure Scalar :=
  match bothNumbers op.symbol lhs rhs with
  | .error e => .error e
  | .ok (a, b) =>
    match op.arithmetic? with
    | some f => (calculated (f a b)).map .number
    | none => .error (.defect (.missingOperator op.symbol))

/-- Applies an operator to two values within a chain of comparisons. -/
def Operator.compare (op : Operator) (lhs rhs : Scalar) : Except Failure Scalar :=
  match op.comparison? with
  | none => .error (.defect (.missingOperator op.symbol))
  | some test =>
    match lhs, rhs with
    | .number a, .number b => .ok (.boolean (test.numbers a b))
    | .number _, rhs => .error (Failure.of (.comparedKind op.symbol .number rhs.kind))
    | .string a, .string b => .ok (.boolean (test.strings a b))
    | .string _, rhs => .error (Failure.of (.comparedKind op.symbol .string rhs.kind))
    | lhs, _ => .error (Failure.of (.incomparable op.symbol lhs.kind))

/-- Applies an operator to two values within a chain. -/
def Level.apply : Level → Operator → Scalar → Scalar → Except Failure Scalar
  | .comparison => Operator.compare
  | .sum | .product => Operator.calculate

/-- A result that stands where only a single value may stand. -/
def Expr.guardValue (e : Expr) (result : Except Failure Scalar) : Except Failure Scalar :=
  if e.isValue then result else .error (.defect (.unsupportedValue e.record))

mutual
def Expr.eval (env : Environment) : Expr → Except Failure Scalar
  | .number x => .ok (.number (.real x))
  | .string s => .ok (.string s)
  | .ident name =>
    match env.lookup name with
    | some v => .ok v
    | none => .error (Failure.of (.unknownVariable name))
  | .group e => e.eval env
  | .factor base => base.guardValue (base.eval env)
  | .power base exponent =>
    match base.guardValue (base.eval env) with
    | .error e => .error e
    | .ok b =>
      match exponent.guardValue (exponent.eval env) with
      | .error e => .error e
      | .ok x => b.power x
  | .chain level left rest =>
    match left.eval env with
    | .error e => .error e
    | .ok lhs => rest.eval env level lhs
  | .stray rendering => .error (.defect (.unsupportedValue rendering))

/-- Applies the links of a chain to the value before them. -/
def Links.eval (env : Environment) (level : Level) (lhs : Scalar) : Links → Except Failure Scalar
  | .nil => .ok lhs
  | .cons op operand rest =>
    match operand.eval env with
    | .error e => .error e
    | .ok rhs =>
      match level.apply op lhs rhs with
      | .error e => .error e
      | .ok v => rest.eval env level v
end

/-- The number that a command reads from its operand. -/
def Expr.evalNumber (env : Environment) (what : String) (e : Expr) : Except Failure Quantity :=
  match e.eval env with
  | .ok v => v.asNumber what
  | .error f => .error f

end TurtleLogo
