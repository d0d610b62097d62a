/-
# `TurtleLogo.Request` — program texts handed in to be run

A text is completed by a line end, parsed and run.  A request answers with a
status instead of a failure: every error of the program or of the turtle is
reported, and only a defect gets out.
-/
import TurtleLogo.Program.Parse
import TurtleLogo.Program.Run

namespace TurtleLogo

variable {σ : Type}

/-- A text with a line end at its end. -/
def completed (source : String) : String :=
  match source.toList.getLast? with
  | some '\n' | some '\r' => source
  | _ => source ++ "\n"

/-- Parses and runs a text, and answers with its program. -/
def runSource (t : Turtle σ) (timer : Timer) (vars : List (String × Given)) (fuel : Nat)
    (source : String) : Action σ Program := do
  let p ← Action.lift (Program.parse (completed source))
  Action.note (.parsed p.length)
  p.run t timer vars fuel
  pure p

/-- How a request ended: with a number of commands or with an error; and the pose afterwards. -/
inductive Status where
  | success (commands : Nat) (pose : Pose)
  | error (e : LogoError) (pose : Pose)

/-- Runs a text and reports how it ended. -/
def processRequest (t : Turtle σ) (timer : Timer) (vars : List (String × Given)) (fuel : Nat)
    (source : String) : Action σ Status :=
  Action.recover
    (do
      let p ← runSource t timer vars fuel source
      let s ← Action.get
      pure (.success p.length (t.pose s)))
    (fun e => do
      Action.note (.programFailed e)
      let s ← Action.get
      pure (.error e (t.pose s)))

end TurtleLogo
