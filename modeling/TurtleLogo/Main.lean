/-
# `TurtleLogo.Main` — the program

The only module that touches the world.  Everything is decided elsewhere: here
the environment, files and lines of input are read, and the events that a
session leaves in its journal are performed.  At the prompt that is done after
every line.

Pins are made outputs by a tool of the machine.  This program starts no tools,
so that to it the tool is always missing.
-/
import TurtleLogo.Console.Session

namespace TurtleLogo.Main

open Console

/-- More rounds than any loop will make. -/
def roundLimit : Nat := 1000000000000000000

/-- Where notes go: the level of the log, and the file that it is kept in, if any. -/
structure Outlet where
  level : Nat
  logFile : Option String

namespace Outlet

def appendTo (path text : String) : IO Unit :=
  IO.FS.withFile path .append fun h => h.putStr text

def log (o : Outlet) (name : String) (severity : Log.Severity) (message : String) : IO Unit := do
  if Log.passes o.level severity.rank then
    let line := Log.lineFor name severity message
    IO.eprint line
    match o.logFile with
    | some path => appendTo path line
    | none => pure ()

def rest (seconds : Float) : IO Unit :=
  IO.sleep (seconds * 1000).toUInt32

def perform (o : Outlet) : Event → IO Unit
  | .wrote text | .prompted text => do
    IO.print text
    (← IO.getStdout).flush
  | .slept seconds => rest seconds
  | .paused seconds =>
    match seconds.toFloat with
    | .ok seconds => rest seconds
    | .error _ => pure ()
  | .noted note => o.log note.source note.severity note.message
  | .opened path _ => IO.FS.writeFile path ""
  | .stored path _ text => appendTo path text
  | _ => pure ()

def performAll (o : Outlet) (j : Journal) : IO Unit :=
  j.events.forM o.perform

def make (level : Nat) (path : String) : IO Outlet := do
  if path.isEmpty then return ⟨level, none⟩
  try
    appendTo path ""
    return ⟨level, some path⟩
  catch e =>
    let o : Outlet := ⟨level, none⟩
    o.log Log.rootName .warning ("Could not set up file logging: " ++ toString e)
    return o

end Outlet

/-- The environment variables that matter. -/
def surroundings : IO Surroundings := do
  let names := ["JLOGO_LOG_LEVEL", "JLOGO_LOG_FILE", "JLOGO_USE_PI", "JLOGO_PI_BLASTER", "JLOGO_GPIO_ROOT"]
  let mut found : Surroundings := []
  for name in names do
    match ← IO.getEnv name with
    | some value => found := found ++ [(name, value)]
    | none => pure ()
  return found

/-- What the operating system says when a file cannot be read. -/
def faultOf : IO.Error → File.Fault
  | .inappropriateType .. => .directory
  | _ => .missing

/-- The bytes of a file, or why it cannot be read. -/
def readBytes (path : String) : IO (Except File.Fault (List UInt8)) := do
  try
    return .ok (← IO.FS.readBinFile path).toList
  catch e =>
    return .error (faultOf e)

/-- What can be done with a file, found out by opening it for writing. -/
def statusOf (path : String) : IO Robot.FileStatus := do
  try
    IO.FS.withFile path .write fun _ => pure ()
    return .writable
  catch e =>
    return .refused (faultOf e)

/-- The machine.  Only a robot needs the daemon's file, and no tool is started. -/
def machine (s : Settings) (options : Options) : IO Robot.Host := do
  let blaster ← if options.robot then statusOf s.blasterPath else pure (.refused .missing)
  return ⟨fun path => if path == s.blasterPath then blaster else .refused .missing, fun _ => some .missing⟩

/-- Reads lines at the prompt until the input ends or a defect shows.  `pending` are lines that
have been read already. -/
partial def converse {σ : Type} (o : Outlet) (job : Job σ) (buffer : String) (pending : List String)
    (state : σ) : IO (Reply Unit × σ) := do
  o.perform (.prompted (promptFor buffer))
  let lines ← if pending.isEmpty then inputLines <$> (← IO.getStdin).getLine else pure pending
  match lines with
  | [] => return (.ok (), state)
  | line :: rest =>
    let (reply, s) := takeLine job buffer line ⟨state, []⟩
    o.performAll s.journal
    match reply with
    | .ok buffer => converse o job buffer rest s.state
    | .error f => return (.error f, s.state)

/-- A session at the prompt.  The turtle is closed at its end. -/
def promptSession (o : Outlet) (r : Ready) : IO Ending := do
  let (reply, state) ← converse o r.job "" [] r.state
  let (closed, s) := closeTurtle r.job.turtle ⟨state, []⟩
  o.performAll s.journal
  match closed, reply with
  | .error f, _ | .ok _, .error f => return .failure f
  | .ok _, .ok _ => return .exit 0

/-- A session with a file, or at the prompt if there is none. -/
def serve (o : Outlet) (desk : Desk) (options : Options) (r : Ready) : IO Ending := do
  match options.program? with
  | none => promptSession o r
  | some path =>
    let content ← readBytes path
    let (reply, s) := session { desk with read := fun _ _ => content } options r.job ⟨r.state, []⟩
    o.performAll s.journal
    return .ofReply reply

/-- Tells how the program ends.  Answers its exit status. -/
def conclude : Ending → IO UInt32
  | .exit status => return status.toUInt32
  | .help text => do
    IO.print text
    return 0
  | .usage message => do
    IO.eprint (usageText ++ message ++ "\n")
    return 2
  | .failure f => do
    IO.eprintln f.text
    return 1

/-- Serves a command line. -/
def runArguments (args : List String) : IO UInt32 := do
  let settings := Settings.ofSurroundings (← surroundings)
  let prepared := prepare settings args
  let o ← Outlet.make (levelFor settings args) settings.logFile
  o.performAll prepared.2
  match prepared.1 with
  | .error ending => conclude ending
  | .ok (options, vars) =>
    let desk : Desk := ⟨settings, fun _ _ => .error .missing, [], ← machine settings options⟩
    let (made, journal) := makeTurtle desk options vars roundLimit []
    o.performAll journal
    match made with
    | .error ending => conclude ending
    | .ok r => conclude (← serve o desk options r)

end TurtleLogo.Main

def main (args : List String) : IO UInt32 :=
  TurtleLogo.Main.runArguments args
