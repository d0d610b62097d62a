/-
# `TurtleLogo.Turtle.Observed` — a turtle whose answers are written down
-/
import TurtleLogo.Turtle.Basic

namespace TurtleLogo

variable {σ : Type}

namespace Turtle

/-- Writes an answer to the journal, with the pose that goes with it. -/
def noting {α : Type} (t : Turtle σ) (call : Call) (answer : α → Answer) (x : Action σ α) :
    Action σ α := fun s =>
  match x s with
  | (r, s) => (r, s.write (.answered call (r.map answer) (t.pose s.state)))

/-- A turtle whose answers are written to the journal. -/
def observed (t : Turtle σ) : Turtle σ where
  move steps := t.noting (.move steps) (fun p => .position p.1 p.2) (t.move steps)
  rotate degrees := t.noting (.rotate degrees) .heading (t.rotate degrees)
  penUp up := t.noting (.penUp up) .pen (t.penUp up)
  pose := t.pose
  close := t.close

end Turtle

end TurtleLogo
