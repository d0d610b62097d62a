/-
# `TurtleLogo.Scalar` — the values of expressions

There are three kinds of values.  Nothing is converted between them, except
that a command reads a truth value as one or zero.  A value handed in from
outside is wrapped first, and some values cannot be.
-/
import TurtleLogo.Quantity
import TurtleLogo.Text.Lowercase
import TurtleLogo.Text.Quoted

namespace TurtleLogo

/-- The kinds of values. -/
inductive Kind where
  | number
  | string
  | boolean
deriving DecidableEq, Repr

def Kind.word : Kind → String
  | .number => "number"
  | .string => "string"
  | .boolean => "boolean"

/-- The value of an expression.  A program's own numbers are reals; a whole number can only be
handed in as a value that is wrapped already. -/
inductive Scalar where
  | number (q : Quantity)
  | string (s : String)
  | boolean (b : Bool)

def Scalar.kind : Scalar → Kind
  | .number _ => .number
  | .string _ => .string
  | .boolean _ => .boolean

/-- A key of a table with its value. -/
def pairText (key value : String) : String :=
  Text.quoted key ++ ": " ++ value

def Scalar.recordName : Scalar → String
  | .number _ => "Number"
  | .string _ => "String"
  | .boolean _ => "Boolean"

def Scalar.record (v : Scalar) : String :=
  let value := match v with
    | .number q => q.text
    | .string s => Text.quoted s
    | .boolean b => truthText b
  v.recordName ++ "(value=" ++ value ++ ")"

/-- A value as it is handed in from outside.  Nothing at all, lists and tables cannot be used in
expressions. -/
inductive Given where
  | quantity (q : Quantity)
  | text (s : String)
  | scalar (v : Scalar)
  | nothing
  | list (items : List Given)
  | table (keys : List String) (values : List Given)

def Given.typeName : Given → String
  | .quantity q => q.typeName
  | .text _ => "str"
  | .scalar v => v.recordName
  | .nothing => "NoneType"
  | .list _ => "list"
  | .table _ _ => "dict"

mutual
def Given.record : Given → String
  | .quantity q => q.text
  | .text s => Text.quoted s
  | .scalar v => v.record
  | .nothing => "None"
  | .list items => "[" ++ String.intercalate ", " (recordGiven items) ++ "]"
  | .table keys values =>
    "\x7b" ++ String.intercalate ", " (List.zipWith pairText keys (recordGiven values)) ++ "\x7d"

def recordGiven : List Given → List String
  | [] => []
  | g :: gs => g.record :: recordGiven gs
end

/-- Whether a given value counts as true: all do but zero, the empty ones and nothing. -/
def Given.isTrue : Given → Bool
  | .quantity q => !q.isZero
  | .text s => !s.isEmpty
  | .scalar _ => true
  | .nothing => false
  | .list items => !items.isEmpty
  | .table keys _ => !keys.isEmpty

/-- A list of bindings, in the order in which the names were first bound. -/
abbrev Bindings (α : Type) := List (String × α)

namespace Bindings

/-- The value that a name is bound to. -/
def get? {α : Type} (name : String) : Bindings α → Option α
  | [] => none
  | (key, value) :: rest => if key = name then some value else get? name rest

/-- Binds a name: a bound name keeps its place, a new one goes to the end. -/
def bind {α : Type} (name : String) (value : α) : Bindings α → Bindings α
  | [] => [(name, value)]
  | (key, old) :: rest => if key = name then (key, value) :: rest else (key, old) :: bind name value rest

theorem get?_bind_self {α : Type} (name : String) (value : α) (b : Bindings α) :
    get? name (bind name value b) = some value := by
  induction b with
  | nil => simp [bind, get?]
  | cons p rest ih =>
    obtain ⟨key, old⟩ := p
    by_cases h : key = name <;> simp [bind, get?, h, ih]

theorem get?_bind_ne {α : Type} {name other : String} (value : α) (b : Bindings α)
    (h : other ≠ name) : get? other (bind name value b) = get? other b := by
  induction b with
  | nil => simp [bind, get?, Ne.symm h]
  | cons p rest ih =>
    obtain ⟨key, old⟩ := p
    by_cases hk : key = name
    · simp [bind, get?, hk, Ne.symm h]
    · by_cases ho : key = other
      · subst ho; simp [bind, get?, h]
      · simp [bind, get?, hk, ho, ih]

end Bindings

/-- The variables of a run, under the lower-case forms of their names. -/
abbrev Environment := Bindings Scalar

/-- The value of a variable, whatever the case of its name. -/
def Environment.lookup (env : Environment) (name : String) : Option Scalar :=
  Bindings.get? (Text.lower name) env

end TurtleLogo
