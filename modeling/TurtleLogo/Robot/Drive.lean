/-
# `TurtleLogo.Robot.Drive` — a turtle on two wheels

Both wheels turn the same way to move and opposite ways to rotate, in lock
step: left, right, pause.  Only when the hardware has done its part is the
wrapped turtle asked, so a failure of the hardware leaves it untouched.
Closing lifts the pen, closes the wrapped turtle and releases the devices,
each of them whatever became of the others.
-/
import TurtleLogo.Turtle.Basic

namespace TurtleLogo.Robot

/-- The moving parts of a robot, with states of type `η`. -/
structure Chassis (η : Type) where
  pen : Quantity → Action η Unit
  advance : Side → Int → Action η Unit
  release : Action η Unit

/-- The measures of a robot: phases for a step and for a degree, the pause after each phase, and
the pen's two angles. -/
structure Calibration where
  moveScale : Quantity
  rotateScale : Quantity
  delay : Quantity
  penUpAngle : Quantity
  penDownAngle : Quantity

/-- The direction of an amount and the number of phases for it. -/
def phases (amount scale : Quantity) : Reply (Int × Nat) :=
  match calculated ((amount.abs.mul scale).bind Quantity.ceil?) with
  | .ok (some count) => .ok (if amount.isNegative then -1 else 1, count.toNat)
  | .ok none => .error (Failure.of (.undrivable amount))
  | .error e => .error e

variable {η σ : Type}

/-- Turns the wheels by a number of phases. -/
def drive (c : Chassis η) (delay : Quantity) (left right : Int) : Nat → Action η Unit
  | 0 => pure ()
  | n + 1 => do
    c.advance .left left
    c.advance .right right
    Action.pause delay
    drive c delay left right n

def Calibration.penAngle (k : Calibration) (up : Bool) : Quantity :=
  if up then k.penUpAngle else k.penDownAngle

/-- Sets the pen and waits for it. -/
def setPen (c : Chassis η) (k : Calibration) (up : Bool) : Action η Unit := do
  c.pen (k.penAngle up)
  Action.pause k.delay

/-- The robot that takes the turtle `t` with it. -/
def turtle (c : Chassis η) (k : Calibration) (t : Turtle σ) : Turtle (η × σ) where
  move steps := do
    let (direction, count) ← Action.lift (phases steps k.moveScale)
    Action.onFst (drive c k.delay direction direction count)
    Action.onSnd (t.move steps)
  rotate degrees := do
    let (direction, count) ← Action.lift (phases degrees k.rotateScale)
    Action.onFst (drive c k.delay direction (-direction) count)
    Action.onSnd (t.rotate degrees)
  penUp up := do
    Action.onFst (setPen c k up)
    Action.onSnd (t.penUp up)
  pose s := t.pose s.2
  close :=
    Action.ensuring
      (do
        Action.onFst (setPen c k true)
        let _ ← Action.onSnd (t.penUp true)
        pure ())
      (Action.ensuring (Action.onSnd t.close) (Action.onFst c.release))

end TurtleLogo.Robot
