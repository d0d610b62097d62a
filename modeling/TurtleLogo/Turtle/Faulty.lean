/-
# `TurtleLogo.Turtle.Faulty` — a turtle some of whose actions fail

Which actions fail is laid down in advance, for each kind of action by the
number of times it has been asked for.  A failed action changes nothing.
-/
import TurtleLogo.Turtle.Basic

namespace TurtleLogo

/-- Which of a sequence of attempts fail, the first one being number zero. -/
abbrev Schedule := Nat → Bool

def Schedule.never : Schedule := fun _ => false

/-- The first `n` attempts succeed and all others fail. -/
def Schedule.after (n : Nat) : Schedule := fun k => n ≤ k

/-- Which actions of a turtle fail. -/
structure FaultPlan where
  move : Schedule := Schedule.never
  rotate : Schedule := Schedule.never
  penUp : Schedule := Schedule.never
  close : Schedule := Schedule.never

/-- A pose and how often each action has been asked for. -/
structure Faulty where
  pose : Pose := Pose.home
  moves : Nat := 0
  rotations : Nat := 0
  penCalls : Nat := 0
  closings : Nat := 0

/-- The error of an action that fails. -/
def faultOf (action : String) : Failure :=
  Failure.of (.told .turtle (action ++ " failed"))

/-- The turtle that keeps its pose and fails according to a plan. -/
def faulty (plan : FaultPlan) : Turtle Faulty where
  move steps := fun s =>
    let f := { s.state with moves := s.state.moves + 1 }
    if plan.move s.state.moves then (.error (faultOf "move"), { s with state := f })
    else
      match calculated steps.toFloat with
      | .error e => (.error e, { s with state := f })
      | .ok amount =>
        let p := f.pose.moved amount
        (.ok (p.x, p.y), { s with state := { f with pose := p } })
  rotate degrees := fun s =>
    let f := { s.state with rotations := s.state.rotations + 1 }
    if plan.rotate s.state.rotations then (.error (faultOf "rotate"), { s with state := f })
    else
      match calculated degrees.toFloat with
      | .error e => (.error e, { s with state := f })
      | .ok amount =>
        let p := f.pose.rotated amount
        (.ok p.heading, { s with state := { f with pose := p } })
  penUp up := fun s =>
    let f := { s.state with penCalls := s.state.penCalls + 1 }
    if plan.penUp s.state.penCalls then (.error (faultOf "pen_up"), { s with state := f })
    else (.ok up, { s with state := { f with pose := f.pose.withPen up } })
  pose f := f.pose
  close := fun s =>
    let f := { s.state with closings := s.state.closings + 1 }
    if plan.close s.state.closings then (.error (faultOf "close"), { s with state := f })
    else (.ok (), { s with state := f })

end TurtleLogo
