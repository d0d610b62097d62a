/-
# `TurtleLogo.Turtle.Pose` — where a turtle is, and what it is asked

The heading is in degrees from zero up to a full turn.
-/
import TurtleLogo.Error

namespace TurtleLogo

/-- Position, heading and pen of a turtle. -/
structure Pose where
  x : Float := 0.0
  y : Float := 0.0
  heading : Float := 0.0
  penUp : Bool := false

/-- The pose of a new turtle: at the origin, with the pen on the paper. -/
def Pose.home : Pose := {}

instance : Inhabited Pose := ⟨Pose.home⟩

/-- What a program asks of a turtle. -/
inductive Call where
  | move (steps : Quantity)
  | rotate (degrees : Quantity)
  | penUp (up : Bool)
deriving DecidableEq

/-- What a turtle answers: its new position, its new heading, or the state of its pen. -/
inductive Answer where
  | position (x y : Float)
  | heading (degrees : Float)
  | pen (up : Bool)

end TurtleLogo
