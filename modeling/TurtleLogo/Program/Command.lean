/-
# `TurtleLogo.Program.Command` — commands and programs

A command knows the line of the program on which it starts, if it came from
a text.
-/
import TurtleLogo.Program.Expr

namespace TurtleLogo

/-- Commands with an operand. -/
inductive Order where
  | forward
  | backward
  | right
  | left
  | sleep
deriving DecidableEq, Repr

/-- What the operand of a command is called in messages. -/
def Order.operandName : Order → String
  | .forward => "FORWARD distance"
  | .backward => "BACKWARD distance"
  | .right => "RIGHT angle"
  | .left => "LEFT angle"
  | .sleep => "SLEEP duration"

/-- Commands without an operand. -/
inductive Gesture where
  | penUp
  | penDown
  | stop
deriving DecidableEq, Repr

/-- A command.  An unknown one tells its line and nothing else; a stray stands for what is no
command, known by its type and how it is written out. -/
inductive Command where
  | order (what : Order) (operand : Expr) (line : Option Int)
  | gesture (what : Gesture) (line : Option Int)
  | loop (times : Expr) (body : List Command) (line : Option Int)
  | comment (text : String) (line : Option Int)
  | unknown (line : Option Int)
  | stray (typeName rendering : String)

def Command.line : Command → Option Int
  | .order _ _ line | .gesture _ line | .loop _ _ line | .comment _ line | .unknown line => line
  | .stray .. => none

/-- A program is a list of commands. -/
abbrev Program := List Command

end TurtleLogo
