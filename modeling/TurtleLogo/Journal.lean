/-
# `TurtleLogo.Journal` — everything that leaves the program

Whatever the outside world can notice of a run is an event: text and prompts
written, sleeps of the program and pauses of a robot, notes in the log, answers
of the turtle, and what is done to the devices.  The journal lists the events, the latest first, and only grows.
All that is reported about a run is a projection of its journal.
-/
import TurtleLogo.Log.Note
import TurtleLogo.Turtle.Pose

namespace TurtleLogo

/-- What is done to the moving parts of a robot on the bench. -/
inductive BenchEvent where
  /-- a servo turned to an angle -/
  | angled (degrees : Quantity)
  /-- a duty cycle set -/
  | pulsed (duty : Float)
  /-- a wheel turned by one step -/
  | turned (wheel : Side) (direction : Int)
  /-- a line of a wheel switched -/
  | switched (wheel : Side) (line : Nat) (on : Bool)

/-- What the outside world can notice.  Robots on the bench are numbered by how many others each
of them is wrapped in. -/
inductive Event where
  /-- text written to the output -/
  | wrote (text : String)
  /-- a prompt shown -/
  | prompted (text : String)
  /-- the program slept for some seconds -/
  | slept (seconds : Float)
  /-- a robot paused for some seconds -/
  | paused (seconds : Quantity)
  /-- a note in the log -/
  | noted (note : Log.Note)
  /-- an answer of the turtle, with its pose afterwards -/
  | answered (call : Call) (answer : Reply Answer) (pose : Pose)
  /-- something done to a robot on the bench -/
  | benched (robot : Nat) (what : BenchEvent)
  /-- a named device closed -/
  | released (name : String)
  /-- a device file opened, which empties it, and the number of the handle on it -/
  | opened (path : String) (handle : Nat)
  /-- text stored in a device file -/
  | stored (path : String) (offset : Nat) (text : String)
  /-- a pin made an output -/
  | exported (pin : Int)
  /-- the device on a pin closed, and the number of its handle if it had one -/
  | closed (pin : Int) (handle : Option Nat)

/-- The events so far, the latest first. -/
abbrev Journal := List Event

namespace Journal

/-- The events in the order in which they happened. -/
def events (j : Journal) : List Event := j.reverse

/-- The events that happened since a journal had `size` events. -/
def since (j : Journal) (size : Nat) : List Event :=
  (j.take (j.length - size)).reverse

end Journal

/-- The text that an event writes to the output. -/
def Event.output? : Event → Option String
  | .wrote text => some text
  | _ => none

/-- The text that an event shows, on the output or as a prompt. -/
def Event.shown? : Event → Option String
  | .wrote text | .prompted text => some text
  | _ => none

/-- All that events write to the output. -/
def outputText (es : List Event) : String :=
  String.join (es.filterMap Event.output?)

/-- All that events show. -/
def shownText (es : List Event) : String :=
  String.join (es.filterMap Event.shown?)

def prompts (es : List Event) : List String :=
  es.filterMap fun
    | .prompted text => some text
    | _ => none

/-- The seconds for which a robot pauses at an event. -/
def Event.pause? : Event → Option Quantity
  | .paused seconds => some seconds
  | _ => none

/-- The seconds that pass at an event, whether the program sleeps or a robot pauses. -/
def Event.rest? : Event → Option Quantity
  | .slept seconds => some (.real seconds)
  | e => e.pause?

/-- The pauses of robots among events. -/
def pauses (es : List Event) : List Quantity :=
  es.filterMap Event.pause?

/-- The sleeps of the program and the pauses of robots among events. -/
def rests (es : List Event) : List Quantity :=
  es.filterMap Event.rest?

def notes (es : List Event) : List Log.Note :=
  es.filterMap fun
    | .noted note => some note
    | _ => none

/-- What was done to a robot on the bench. -/
def benchEvents (robot : Nat) (es : List Event) : List BenchEvent :=
  es.filterMap fun
    | .benched number what => if number = robot then some what else none
    | _ => none

def servoAngles (es : List BenchEvent) : List Quantity :=
  es.filterMap fun
    | .angled degrees => some degrees
    | _ => none

def dutyCycles (es : List BenchEvent) : List Float :=
  es.filterMap fun
    | .pulsed duty => some duty
    | _ => none

/-- The steps of a wheel among events. -/
def wheelSteps (wheel : Side) (es : List BenchEvent) : List Int :=
  es.filterMap fun
    | .turned side direction => if side = wheel then some direction else none
    | _ => none

/-- What was written to a line of a wheel. -/
def lineLevels (wheel : Side) (line : Nat) (es : List BenchEvent) : List Bool :=
  es.filterMap fun
    | .switched side index on => if side = wheel ∧ index = line then some on else none
    | _ => none

/-- The named devices closed. -/
def releasedNames (es : List Event) : List String :=
  es.filterMap fun
    | .released name => some name
    | _ => none

def closedPins (es : List Event) : List Int :=
  es.filterMap fun
    | .closed pin _ => some pin
    | _ => none

def openedHandles (es : List Event) : List Nat :=
  es.filterMap fun
    | .opened _ handle => some handle
    | _ => none

/-- The handles on device files that were closed, as often as they were. -/
def closedHandles (es : List Event) : List Nat :=
  es.filterMap fun
    | .closed _ handle => handle
    | _ => none

def exportedPins (es : List Event) : List Int :=
  es.filterMap fun
    | .exported pin => some pin
    | _ => none

/-- Consecutive equal items with their number. -/
def runLengths {α : Type} [BEq α] : List α → List (α × Nat)
  | [] => []
  | a :: as =>
    match runLengths as with
    | (b, n) :: rest => if a == b then (a, n + 1) :: rest else (a, 1) :: (b, n) :: rest
    | [] => [(a, 1)]

end TurtleLogo
