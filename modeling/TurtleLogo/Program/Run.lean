/-
# `TurtleLogo.Program.Run` — running programs

Commands run in order, and the first failure ends the run.  A loop counts up
in floating-point numbers and goes on while its counter is below the count,
which is evaluated once; a count of two and a half gives three rounds.  Since
that need not come to an end, a run is given a bound on the rounds of each
loop, and a run that reaches it is unfinished.

Motions are the turtle's and sleeps the timer's business.  An error gets the
line of the innermost command that has one.
-/
import TurtleLogo.Program.Evaluate
import TurtleLogo.Program.Sleep
import TurtleLogo.Turtle.Basic

namespace TurtleLogo

variable {σ : Type}

/-- Repeats an action while a counter is below a limit, for at most `fuel` rounds. -/
def repeatBelow (limit : Quantity) (body : Action σ Unit) : Nat → Float → Action σ Unit
  | 0, counter => if (Quantity.real counter).lt limit then Action.fail .unfinished else pure ()
  | fuel + 1, counter =>
    if (Quantity.real counter).lt limit then do
      body
      repeatBelow limit body fuel (counter + 1.0)
    else pure ()

def Order.run (t : Turtle σ) (timer : Timer) (amount : Quantity) : Order → Action σ Unit
  | .forward => do let _ ← t.move amount; pure ()
  | .backward => do let _ ← t.move amount.neg; pure ()
  | .right => do let _ ← t.rotate amount; pure ()
  | .left => do let _ ← t.rotate amount.neg; pure ()
  | .sleep => timer.sleepFor amount

def Gesture.run (t : Turtle σ) (line : Option Int) : Gesture → Action σ Unit
  | .penUp => do let _ ← t.penUp true; pure ()
  | .penDown => do let _ ← t.penUp false; pure ()
  | .stop => Action.note (.stopIgnored line)

mutual
def Command.run (t : Turtle σ) (timer : Timer) (env : Environment) (fuel : Nat) :
    Command → Action σ Unit
  | .order what operand line => do
    Action.note (.running (.order what operand line))
    let amount ← Action.lift (operand.evalNumber env what.operandName)
    what.run t timer amount
  | .gesture what line => do
    Action.note (.running (.gesture what line))
    what.run t line
  | .loop times body line => do
    Action.note (.running (.loop times body line))
    let limit ← Action.lift (times.evalNumber env "REPEAT count")
    repeatBelow limit (runAll t timer env fuel body) fuel 0.0
  | .comment text line => Action.note (.running (.comment text line))
  | .unknown line => do
    Action.note (.running (.unknown line))
    Action.fail (.defect (.unsupportedCommand (Command.unknown line).record))
  | .stray typeName _ => Action.fail (.defect (.lacking typeName "line"))

def runAll (t : Turtle σ) (timer : Timer) (env : Environment) (fuel : Nat) :
    List Command → Action σ Unit
  | [] => pure ()
  | c :: cs => do
    Action.mapFailure (Failure.at? · c.line) (c.run t timer env fuel)
    runAll t timer env fuel cs
end

/-- Runs a program with given variables.  An empty program does not even look at them. -/
def Program.run (t : Turtle σ) (timer : Timer) (vars : List (String × Given)) (fuel : Nat)
    (p : Program) : Action σ Unit :=
  if p.isEmpty then pure ()
  else do
    let env ← Action.lift (Environment.ofGiven vars)
    runAll t timer env fuel p

end TurtleLogo
