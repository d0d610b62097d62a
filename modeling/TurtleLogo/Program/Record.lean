/-
# `TurtleLogo.Program.Record` — trees written out in full

The log and the messages about defects show a tree with every field by name.
-/
import TurtleLogo.Decimal.Layout
import TurtleLogo.Program.Command
import TurtleLogo.Text.Quoted

namespace TurtleLogo

open Text Decimal

/-- A record with its fields in order. -/
def recordText (name : String) (fields : List (String × String)) : String :=
  name ++ "(" ++ String.intercalate ", " (fields.map fun f => f.1 ++ "=" ++ f.2) ++ ")"

/-- A row of items; a single one is followed by a comma. -/
def rowText : List String → String
  | [item] => "(" ++ item ++ ",)"
  | items => "(" ++ String.intercalate ", " items ++ ")"

def Level.recordName : Level → String
  | .comparison => "Comparison"
  | .sum => "ArithExpr"
  | .product => "Term"

mutual
def Expr.record : Expr → String
  | .number x => recordText "NumberLiteral" [("value", Layout.full.text x)]
  | .string s => recordText "StringLiteral" [("value", quoted s)]
  | .ident name => recordText "Variable" [("name", quoted name)]
  | .group e => recordText "Group" [("expression", e.record)]
  | .factor base => recordText "Factor" [("base", base.record), ("exponent", "None")]
  | .power base exponent =>
    recordText "Factor" [("base", base.record), ("exponent", exponent.record)]
  | .chain level left rest =>
    recordText level.recordName [("left", left.record), ("rest", rowText rest.records)]
  | .stray rendering => rendering

/-- The links of a chain written out, each as an operator and an operand. -/
def Links.records : Links → List String
  | .nil => []
  | .cons op e rest => rowText [quoted op.symbol, e.record] :: rest.records
end

def Order.recordName : Order → String
  | .forward => "Forward"
  | .backward => "Backward"
  | .right => "Right"
  | .left => "Left"
  | .sleep => "Sleep"

def Gesture.recordName : Gesture → String
  | .penUp => "PenUp"
  | .penDown => "PenDown"
  | .stop => "Stop"

def lineText : Option Int → String
  | some line => intText line
  | none => "None"

mutual
def Command.record : Command → String
  | .order what operand line =>
    recordText what.recordName [("line", lineText line), ("expression", operand.record)]
  | .gesture what line => recordText what.recordName [("line", lineText line)]
  | .loop times body line =>
    recordText "Repeat"
      [("line", lineText line), ("times", times.record), ("commands", rowText (recordAll body))]
  | .comment text line => recordText "Comment" [("line", lineText line), ("text", quoted text)]
  | .unknown line => recordText "Command" [("line", lineText line)]
  | .stray _ rendering => rendering

def recordAll : List Command → List String
  | [] => []
  | c :: cs => c.record :: recordAll cs
end

end TurtleLogo
