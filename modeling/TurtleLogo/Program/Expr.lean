/-
# `TurtleLogo.Program.Expr` — expression trees

Operators bind at three levels, and a chain holds the operands of one level
with the operators between them, to be applied from left to right.  Tighter
than all chains binds a power, whose base and exponent are single values.

The trees are wider than what the grammar builds: a chain may hold any
operator, also one that does not exist, and any operand, and in any place may
stand something that is no expression.  Evaluation answers those too;
`Expr.OnLadder` singles out the trees that programs contain.
-/
namespace TurtleLogo

/-- The operators between the operands of a chain.  The last one is any that does not exist. -/
inductive Operator where
  | add
  | sub
  | mul
  | div
  | eq
  | ne
  | lt
  | gt
  | le
  | ge
  | other (symbol : String)
deriving DecidableEq, Repr

def Operator.symbol : Operator → String
  | .add => "+"
  | .sub => "-"
  | .mul => "*"
  | .div => "/"
  | .eq => "="
  | .ne => "!="
  | .lt => "<"
  | .gt => ">"
  | .le => "<="
  | .ge => ">="
  | .other symbol => symbol

/-- All operators that exist. -/
def Operator.all : List Operator :=
  [.add, .sub, .mul, .div, .eq, .ne, .lt, .gt, .le, .ge]

def Operator.ofSymbol? (s : String) : Option Operator :=
  Operator.all.find? fun op => op.symbol == s

/-- The levels of chains, the loosest first. -/
inductive Level where
  | comparison
  | sum
  | product
deriving DecidableEq, Repr

/-- The level at which the grammar lets an operator stand. -/
def Operator.level? : Operator → Option Level
  | .add | .sub => some .sum
  | .mul | .div => some .product
  | .eq | .ne | .lt | .gt | .le | .ge => some .comparison
  | .other _ => none

mutual
/-- An expression.  A stray stands for what is no expression, known by how it is written out. -/
inductive Expr where
  | number (x : Float)
  | string (s : String)
  | ident (name : String)
  | group (e : Expr)
  | factor (base : Expr)
  | power (base exponent : Expr)
  | chain (level : Level) (left : Expr) (rest : Links)
  | stray (rendering : String)

/-- The operators of a chain with the operands behind them. -/
inductive Links where
  | nil
  | cons (op : Operator) (operand : Expr) (rest : Links)
end

/-- A chain with one more link at its end. -/
def Links.snoc : Links → Operator → Expr → Links
  | .nil, op, e => .cons op e .nil
  | .cons o x rest, op, e => .cons o x (rest.snoc op e)

def Links.length : Links → Nat
  | .nil => 0
  | .cons _ _ rest => rest.length + 1

/-- Single values: all that a power takes as base and exponent. -/
def Expr.isValue : Expr → Bool
  | .number _ | .string _ | .ident _ | .group _ => true
  | _ => false

/-- The rungs of the ladder: the three levels of chains, then factors, then single values. -/
inductive Rung where
  | chain (level : Level)
  | factor
  | value
deriving DecidableEq, Repr

/-- The rung on which the operands of a level stand. -/
def Level.operandRung : Level → Rung
  | .comparison => .chain .sum
  | .sum => .chain .product
  | .product => .factor

mutual
/-- `OnLadder r e`: `e` is a tree that the grammar builds on rung `r`. -/
inductive OnLadder : Rung → Expr → Prop
  | number (x : Float) : OnLadder .value (.number x)
  | string (s : String) : OnLadder .value (.string s)
  | ident (name : String) : OnLadder .value (.ident name)
  | group {e : Expr} : OnLadder (.chain .comparison) e → OnLadder .value (.group e)
  | factor {b : Expr} : OnLadder .value b → OnLadder .factor (.factor b)
  | power {b x : Expr} : OnLadder .value b → OnLadder .value x → OnLadder .factor (.power b x)
  | chain {l : Level} {e : Expr} {rest : Links} :
      OnLadder l.operandRung e → LinksOnLadder l rest → OnLadder (.chain l) (.chain l e rest)

/-- `LinksOnLadder l rest`: operators of level `l` with operands that the grammar builds. -/
inductive LinksOnLadder : Level → Links → Prop
  | nil (l : Level) : LinksOnLadder l .nil
  | cons {l : Level} {op : Operator} {e : Expr} {rest : Links} :
      op.level? = some l → OnLadder l.operandRung e → LinksOnLadder l rest →
      LinksOnLadder l (.cons op e rest)
end

/-- The trees that stand as operands of commands. -/
def Expr.OnLadder (e : Expr) : Prop :=
  TurtleLogo.OnLadder (.chain .comparison) e

end TurtleLogo
