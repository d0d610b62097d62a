/-
# `TurtleLogo.Turtle.Reported` — a turtle whose actions are reported

After every action, failed or not, one line tells what was asked and where
the turtle is now.  Numbers are reported as reals: what is too large for a
real cannot be reported, and that hides what became of the action.
-/
import TurtleLogo.Turtle.Basic

namespace TurtleLogo

open Decimal

def reportNumber (x : Float) : String :=
  Layout.brief.text x

def reportQuantity (q : Quantity) : Reply String :=
  (calculated q.toFloat).map reportNumber

def movedLine (steps : Quantity) (p : Pose) : Reply String :=
  (reportQuantity steps).map fun amount =>
    "Moved " ++ amount ++ " steps. Now at (" ++ reportNumber p.x ++ ", " ++ reportNumber p.y ++ ")\n"

def rotatedLine (degrees : Quantity) (p : Pose) : Reply String :=
  (reportQuantity degrees).map fun amount =>
    "Rotated " ++ amount ++ " degrees. Now facing " ++ reportNumber p.heading ++ "\n"

def penLine (p : Pose) : Reply String :=
  .ok ("Pen is now " ++ (if p.penUp then "up" else "down") ++ "\n")

namespace Turtle

variable {σ α : Type}

/-- Writes a line about the pose after an action, whatever became of it. -/
def reporting (t : Turtle σ) (x : Action σ α) (line : Pose → Reply String) : Action σ α := fun s =>
  match x s with
  | (r, s) =>
    match line (t.pose s.state) with
    | .ok text => (r, s.write (.wrote text))
    | .error e => (.error e, s)

/-- A turtle that acts as `t` does and reports every action. -/
def reported (t : Turtle σ) : Turtle σ where
  move steps := t.reporting (t.move steps) (movedLine steps)
  rotate degrees := t.reporting (t.rotate degrees) (rotatedLine degrees)
  penUp up := t.reporting (t.penUp up) penLine
  pose := t.pose
  close := t.close

end Turtle

end TurtleLogo
