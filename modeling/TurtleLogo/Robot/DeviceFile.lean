/-
# `TurtleLogo.Robot.DeviceFile` — devices behind files

A device is a file that is opened for writing and then written to.  Opening
empties the file, and every open handle keeps its own place in it.  Handles are
numbered in the order in which they are opened, whatever the file.  What stands
in the files at any time follows from the journal.

A full device takes nothing.  What it did not take stays with the handle, which
tries once more, in vain, when it is closed; it is closed all the same.

Which files can be opened, which are full, and whether the tool that makes a
pin an output can be run are properties of the machine that the robot runs on.
They may change with what happens: a file that could be opened once need not
open again.  Where the devices are found unless a caller says so is laid down by
the machine's settings.
-/
import TurtleLogo.Robot.Stepper
import TurtleLogo.Settings

namespace TurtleLogo.Robot

open Decimal Text

/-- What can be done with a file. -/
inductive FileStatus where
  | writable
  | full
  | refused (fault : File.Fault)
deriving DecidableEq, Repr

/-- Why the tool that makes a pin an output did not. -/
inductive ToolFailure where
  | missing
  | status
  | timeout
deriving DecidableEq, Repr

/-- The machine that the robot runs on, as it is at a moment. -/
structure Host where
  file : String → FileStatus
  tool : Int → Option ToolFailure

/-- The machine that the robot runs on, by what has happened so far, and its settings. -/
structure Machine where
  now : Journal → Host
  settings : Settings

/-- A machine that does not change, with nothing laid down in its environment. -/
instance : Coe Host Machine := ⟨fun host => ⟨fun _ => host, .ofSurroundings []⟩⟩

/-- Why the tool failed, in words. -/
def ToolFailure.reason (pin : Int) : ToolFailure → String
  | .missing => File.Fault.missing.reason "gpio"
  | .status => commandWords ++ " returned non-zero exit status 1."
  | .timeout => commandWords ++ " timed out after 10 seconds"
where
  /-- The command that failed, as a list of words. -/
  commandWords : String := "Command '['gpio', 'export', '" ++ intText pin ++ "', 'out']'"

/-- A handle on a file: its number, where it stands, whether the device behind it is full, whether
it holds text that could not be written, and whether it is open. -/
structure Handle where
  number : Nat
  path : String
  full : Bool
  offset : Nat := 0
  pending : Bool := false
  isOpen : Bool := true

variable {σ : Type}

/-- Opens a file, or tells why it cannot be opened. -/
def openFile (m : Machine) (path : String) : Action σ (Except String Handle) := fun s =>
  let number := (openedHandles s.journal).length
  match (m.now s.journal).file path with
  | .writable => (.ok (.ok { number, path, full := false }), s.write (.opened path number))
  | .full => (.ok (.ok { number, path, full := true }), s.write (.opened path number))
  | .refused fault => (.ok (.error (fault.reason path)), s)

namespace Handle

/-- Stores a text where the handle stands.  `target` is the device's name in messages. -/
def store (target text : String) : Action Handle Unit := fun s =>
  let h := s.state
  if !h.isOpen then (.error (.defect .closedFile), s)
  else if h.full then
    (.error (Failure.of (.notWritten target File.Fault.full.words)), ⟨{ h with pending := true }, s.journal⟩)
  else
    (.ok (), ⟨{ h with offset := h.offset + text.length }, .stored h.path h.offset text :: s.journal⟩)

/-- Closes a handle.  It is closed afterwards, also if text was left that could not be written;
closing it again does nothing. -/
def close : Action Handle Unit := fun s =>
  let h := s.state
  (if h.isOpen && h.pending then .error (.defect .unsaved) else .ok (),
    ⟨{ h with isOpen := false }, s.journal⟩)

end Handle

/-! ## Pulse-width channels

One line for each command, with the duty cycle at six places.  The channel keeps
its handle after it has been closed. -/

/-- A channel of the pulse-width daemon. -/
structure Blaster where
  pin : Int
  handle : Handle

namespace Blaster

/-- Opens a channel for a pin.  An empty path asks for the one in the settings. -/
def connect (m : Machine) (pin : Int) (path : String) : Action σ Blaster := do
  let path := if path.isEmpty then m.settings.blasterPath else path
  match ← openFile m path with
  | .error reason => Action.fail (Failure.of (.notOpened path reason))
  | .ok handle => do
    Action.note (.pwmReady pin path)
    pure ⟨pin, handle⟩

def onHandle {α : Type} (x : Action Handle α) : Action Blaster α := fun s =>
  match x ⟨s.state.handle, s.journal⟩ with
  | (r, s') => (r, ⟨{ s.state with handle := s'.state }, s'.journal⟩)

/-- Sends a line to the daemon. -/
def send (text : String) : Action Blaster Unit := do
  let b ← Action.get
  onHandle (Handle.store b.handle.path (text ++ "\n"))

def setDuty (duty : Quantity) : Action Blaster Unit := do
  let b ← Action.get
  let x ← Action.lift (calculated duty.toFloat)
  send (intText b.pin ++ "=" ++ fixedText 6 x)

def giveBack : Action Blaster Unit := do
  let b ← Action.get
  send ("release " ++ intText b.pin)

def close : Action Blaster Unit := do
  let b ← Action.get
  Action.emit (.closed b.pin (some b.handle.number))
  onHandle Handle.close

end Blaster

/-! ## Digital lines

The tool that makes the pin an output is run first, and only then is the file of
its value opened.  The handle is given up when closing succeeds. -/

/-- A pin that is a digital output; it has no handle once closing it has succeeded. -/
structure GpioLine where
  pin : Int
  handle : Option Handle

namespace GpioLine

def directoryName (pin : Int) : String :=
  "gpio" ++ intText pin

def valuePath (root : String) (pin : Int) : String :=
  File.join (File.join root (directoryName pin)) "value"

/-- Makes a pin an output, if the tool for that can be run. -/
def exportPin (m : Machine) (pin : Int) : Action σ Unit := fun s =>
  match (m.now s.journal).tool pin with
  | some failure =>
    (.error (Failure.of (.gpioUnavailable pin)),
      (s.write (.exported pin)).write (.noted (.exportFailed (failure.reason pin) pin)))
  | none => (.ok (), s.write (.exported pin))

/-- Makes a pin an output and opens it.  An empty root asks for the one in the settings. -/
def connect (m : Machine) (root : String) (pin : Int) : Action σ GpioLine := do
  let root := if root.isEmpty then m.settings.gpioRoot else root
  exportPin m pin
  match ← openFile m (valuePath root pin) with
  | .error reason => do
    Action.note (.pinNotOpened reason)
    Action.fail (Failure.of (.pinUninitialized pin))
  | .ok handle => pure ⟨pin, some handle⟩

def switch : Switch GpioLine := fun on s =>
  match s.state.handle with
  | none => (.error (Failure.of (.pinUninitialized s.state.pin)), s)
  | some handle =>
    match Handle.store (directoryName s.state.pin) (if on then "1" else "0") ⟨handle, s.journal⟩ with
    | (r, s') => (r, ⟨{ s.state with handle := some s'.state }, s'.journal⟩)

/-- Closes a line.  A handle that could not be closed in order is kept. -/
def close : Action GpioLine Unit := fun s =>
  let l := s.state
  let j := .closed l.pin (l.handle.map Handle.number) :: s.journal
  match l.handle with
  | none => (.ok (), ⟨l, j⟩)
  | some handle =>
    match Handle.close ⟨handle, j⟩ with
    | (.ok (), s) => (.ok (), ⟨{ l with handle := none }, s.journal⟩)
    | (.error e, s) => (.error e, ⟨{ l with handle := some s.state }, s.journal⟩)

end GpioLine

/-! ## What stands in the files

Every store goes to the place where its own handle stands, so two handles on one
file may write over each other. -/

/-- A text with another one written over it from `offset` on; a gap is filled with zeros. -/
def overlay (old : List Char) (offset : Nat) (new : List Char) : List Char :=
  old.take offset ++ List.replicate (offset - old.length) (Char.ofNat 0) ++ new ++
    old.drop (offset + new.length)

/-- What a file holds after a text has been stored in it; most texts go to its end. -/
def contentAfter (old : String) (offset : Nat) (text : String) : String :=
  if old.length = offset then old ++ text
  else String.ofList (overlay old.toList offset text.toList)

/-- The files after one more event. -/
def fileStep (files : Bindings String) : Event → Bindings String
  | .opened path _ => Bindings.bind path "" files
  | .stored path offset text =>
    Bindings.bind path (contentAfter ((Bindings.get? path files).getD "") offset text) files
  | _ => files

/-- The files after some events. -/
def filesAfter (files : Bindings String) (es : List Event) : Bindings String :=
  es.foldl fileStep files

end TurtleLogo.Robot
