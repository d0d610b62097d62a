/-
# `TurtleLogo.Turtle.Basic` — turtles, and the one that only keeps books

A turtle is given by what it does on states of some type when it is asked to
move, to rotate, to lift its pen or to close.  The simplest one keeps a pose:
it moves from the origin, not from where it stands, and turns within a full
circle.  A whole number too large for the reals does not move it.
-/
import TurtleLogo.Action

namespace TurtleLogo

/-- A turtle with states of type `σ`. -/
structure Turtle (σ : Type) where
  move : Quantity → Action σ (Float × Float)
  rotate : Quantity → Action σ Float
  penUp : Bool → Action σ Bool
  pose : σ → Pose
  close : Action σ Unit

namespace Turtle

variable {σ : Type}

/-- What a turtle does when it is asked. -/
def answer (t : Turtle σ) : Call → Action σ Answer
  | .move steps => do let (x, y) ← t.move steps; pure (.position x y)
  | .rotate degrees => do let h ← t.rotate degrees; pure (.heading h)
  | .penUp up => do let p ← t.penUp up; pure (.pen p)

end Turtle

def radiansPerDegree : Float := Float.ofBits 0x3f91df46a2529d39

def fullTurn : Nat := 360

namespace Pose

/-- The pose after a move: `steps` from the origin along the heading. -/
def moved (p : Pose) (steps : Float) : Pose :=
  let angle := p.heading * radiansPerDegree
  { p with x := steps * Float.cos angle, y := steps * Float.sin angle }

def rotated (p : Pose) (degrees : Float) : Pose :=
  { p with heading := Decimal.wrap (p.heading + degrees) fullTurn }

def withPen (p : Pose) (up : Bool) : Pose :=
  { p with penUp := up }

end Pose

/-- The turtle that only keeps its pose. -/
def kinematic : Turtle Pose where
  move steps := fun s =>
    match calculated steps.toFloat with
    | .error e => (.error e, s)
    | .ok amount =>
      let p := s.state.moved amount
      (.ok (p.x, p.y), { s with state := p })
  rotate degrees := fun s =>
    match calculated degrees.toFloat with
    | .error e => (.error e, s)
    | .ok amount =>
      let p := s.state.rotated amount
      (.ok p.heading, { s with state := p })
  penUp up := fun s => (.ok up, { s with state := s.state.withPen up })
  pose := id
  close := pure ()

end TurtleLogo
