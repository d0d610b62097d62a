/-
# `TurtleLogo.Console.Session` — running programs from a file or a prompt

With a file, its program is run and the exit status tells whether it ran
without error.  Without one, lines are read at a prompt until the input ends;
lines are collected while brackets are open, and every complete piece is run
on the same turtle.  Programs sleep by the clock of the machine.  Either way the
turtle is closed at the end, once.
-/
import TurtleLogo.Console.Brackets
import TurtleLogo.Console.Definitions
import TurtleLogo.Console.Options
import TurtleLogo.File.Fault
import TurtleLogo.Log.Setup
import TurtleLogo.Request
import TurtleLogo.Robot.Wiring
import TurtleLogo.Settings

namespace TurtleLogo.Console

open Decimal Text

variable {σ : Type}

/-- What surrounds a session: the settings, what can be read from files after some events, the
lines of the input, and the machine. -/
structure Desk where
  settings : Settings
  read : List Event → String → Except File.Fault (List UInt8)
  input : List String
  host : Robot.Host

/-- What a session works with: the turtle, its variables, and the bound on the rounds of loops. -/
structure Job (σ : Type) where
  turtle : Turtle σ
  vars : Bindings Given
  fuel : Nat

def say (text : String) : Action σ Unit :=
  Action.emit (.wrote text)

/-! ## File mode

The status is zero if the program ran without error and one if not.  A file that
cannot be read is an error to report; one whose bytes are no text is a defect, and
so is a path with a zero character. -/

/-- The report of an error in file mode, with its line. -/
def fileReport (e : LogoError) : String :=
  let place := match e.line with
    | some line => "line " ++ intText line ++ ": "
    | none => ""
  "ERROR: " ++ place ++ e.message ++ "\n"

/-- Runs the text of a file.  The status is zero if it ran without error. -/
def runText (job : Job σ) (source : String) : Action σ Nat := do
  match ← processRequest job.turtle .clock job.vars job.fuel source with
  | .success _ _ => pure 0
  | .error e _ => do
    say (fileReport e)
    pure 1

/-- Runs the program that the bytes of a file spell. -/
def runBytes (job : Job σ) (bytes : List UInt8) : Action σ Nat :=
  match decodeUtf8 bytes with
  | .error e => Action.fail (.defect (.notText e))
  | .ok text => runText job (String.ofList (unifyNewlines text.toList))

/-- Reports that a file cannot be read. -/
def reportUnreadable (path reason : String) : Action σ Nat := do
  Action.note (.unreadable path reason)
  say ("ERROR: cannot read " ++ path ++ ": " ++ reason ++ "\n")
  pure 1

/-- Runs the program in a file, of which `content` is what can be read.  No path holds a zero
character. -/
def runFile (job : Job σ) (path : String) (content : Except File.Fault (List UInt8)) : Action σ Nat :=
  if path.toList.contains (Char.ofNat 0) then Action.fail (.defect .zeroInPath)
  else
    match content with
    | .ok bytes => runBytes job bytes
    | .error fault => reportUnreadable path (fault.reason path)

/-! ## Prompt mode

What has been collected is run as soon as its brackets are closed, on the same
turtle as everything before.  An error is written and the prompt goes on; a defect
ends the session. -/

/-- The prompt, which tells whether input is being collected. -/
def promptFor (buffer : String) : String :=
  if buffer.isEmpty then "> " else ". "

/-- Runs a complete piece of input, unless it is blank. -/
def submit (job : Job σ) (source : String) : Action σ Unit :=
  if (trim source.toList).isEmpty then pure ()
  else do
    match ← processRequest job.turtle .clock job.vars job.fuel source with
    | .success _ _ => pure ()
    | .error e _ => say ("ERROR: " ++ e.message ++ "\n")

/-- Takes a line of input: it is collected if brackets are open, and otherwise what has been
collected is run.  Answers what is collected afterwards. -/
def takeLine (job : Job σ) (buffer line : String) : Action σ String :=
  let source := buffer ++ line ++ "\n"
  if 0 < bracketDepth source.toList then pure source
  else do
    submit job source
    pure ""

/-- Reads lines at the prompt until the input ends. -/
def runPrompt (job : Job σ) (buffer : String) : List String → Action σ Unit
  | [] => Action.emit (.prompted (promptFor buffer))
  | line :: lines => do
    Action.emit (.prompted (promptFor buffer))
    let buffer ← takeLine job buffer line
    runPrompt job buffer lines

/-! ## Sessions

From the command line to the end: the options are read, the log is set up, the
definitions are made, the turtle is built, and only then is anything run.  Each of
these may end the program, and each in its own way. -/

/-- The file that a command line asks for; an empty name asks for none. -/
def Options.program? (o : Options) : Option String :=
  o.file.filter fun path => !path.isEmpty

/-- Closes the turtle; an error is only noted. -/
def closeTurtle (t : Turtle σ) : Action σ Unit :=
  Action.recover t.close fun e => Action.note (.closeFailed e)

/-- Runs what the command line asks for and closes the turtle. -/
def session (desk : Desk) (o : Options) (job : Job σ) : Action σ Nat :=
  Action.ensuring
    (match o.program? with
      | some path => fun s => runFile job path (desk.read s.journal.events path) s
      | none => do
        runPrompt job "" desk.input
        pure 0)
    (closeTurtle job.turtle)

/-- How a call of the program ends. -/
inductive Ending where
  | exit (status : Nat)
  | help (text : String)
  | usage (message : String)
  | failure (f : Failure)

def usageMessage (message : String) : String :=
  "jlogo: error: " ++ message

def defaultOptions (s : Settings) : Options :=
  ⟨s.useRobot, none, [], none⟩

/-- The level of the log that is asked for; an empty name asks for the one in the settings. -/
def Options.level (o : Options) (s : Settings) : Except Defect Nat :=
  Log.levelNamed ((o.logLevel.filter fun name => !name.isEmpty).getD s.logLevel)

/-- The definitions on a command line.  One without a value is an empty list. -/
def Options.definitionItems (o : Options) : List Given :=
  o.definitions.map fun
    | some item => .text item
    | none => .list []

/-- The level of the log while a command line is served. -/
def levelFor (s : Settings) (args : List String) : Nat :=
  match readArguments (defaultOptions s) args with
  | .options o =>
    match o.level s with
    | .ok level => level
    | .error _ => Log.usualLevel
  | _ => Log.usualLevel

def Ending.ofBadDefinition : BadDefinition → Ending
  | .malformed item => .usage (usageMessage (malformedText item))
  | .notText typeName => .failure (.defect (.lacking typeName "partition"))

/-- Sets the log up, greets, and reads the definitions on a command line. -/
def greet (s : Settings) (o : Options) : Except Ending (Options × Bindings Given) × Journal :=
  match o.level s with
  | .error d => (.error (.failure (.defect d)), [])
  | .ok _ =>
    match readDefinitions o.definitionItems with
    | .error e => (.error (.ofBadDefinition e), [.noted .welcome])
    | .ok vars => (.ok (o, vars), [.noted .welcome])

/-- Reads the command line and greets. -/
def prepare (s : Settings) (args : List String) : Except Ending (Options × Bindings Given) × Journal :=
  match readArguments (defaultOptions s) args with
  | .help => (.error (.help (helpText s.logLevel)), [])
  | .wrong message => (.error (.usage (usageMessage message)), [])
  | .options o => greet s o

/-- How a session ends. -/
def Ending.ofReply : Reply Nat → Ending
  | .ok status => .exit status
  | .error f => .failure f

/-- A turtle ready to work, with its state. -/
structure Ready where
  State : Type
  job : Job State
  state : State

def readyText (vars : Bindings Given) (fuel : Nat) : Ready :=
  ⟨Pose, ⟨kinematic.reported, vars, fuel⟩, Pose.home⟩

/-- The robot, with its devices opened. -/
def readyRobot (config : Robot.Config) (w : Robot.Wiring) (vars : Bindings Given) (fuel : Nat) : Ready :=
  ⟨Robot.Wiring × Pose, ⟨Robot.Wiring.turtle config, vars, fuel⟩, (w, Pose.home)⟩

/-- Makes the turtle that is asked for.  A robot that cannot be built ends the program. -/
def makeTurtle (desk : Desk) (o : Options) (vars : Bindings Given) (fuel : Nat) (j : Journal) :
    Except Ending Ready × Journal :=
  if o.robot then
    let config := desk.settings.robot
    let machine : Robot.Machine := ⟨fun _ => desk.host, desk.settings⟩
    let build : Action Unit Robot.Wiring := Robot.Wiring.connect machine config
    match build ⟨(), .noted .usingRobot :: j⟩ with
    | (.error (.error e), s) => (.error (.exit 1), .wrote ("ERROR: " ++ e.text ++ "\n") :: s.journal)
    | (.error f, s) => (.error (.failure f), s.journal)
    | (.ok w, s) => (.ok (readyRobot config w vars fuel), s.journal)
  else (.ok (readyText vars fuel), .noted .usingText :: j)

/-- The whole program: reads the command line, makes a turtle and runs the session. -/
def invoke (desk : Desk) (fuel : Nat) (args : List String) : Ending × Journal :=
  match prepare desk.settings args with
  | (.error e, j) => (e, j)
  | (.ok (o, vars), j) =>
    match makeTurtle desk o vars fuel j with
    | (.error e, j) => (e, j)
    | (.ok r, j) =>
      match session desk o r.job ⟨r.state, j⟩ with
      | (reply, s) => (.ofReply reply, s.journal)

def inputLines (text : String) : List String :=
  let parts := (String.ofList (unifyNewlines text.toList)).splitOn "\n"
  if parts.getLast? == some "" then parts.dropLast else parts

end TurtleLogo.Console
