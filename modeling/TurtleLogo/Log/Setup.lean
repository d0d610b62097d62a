/-
# `TurtleLogo.Log.Setup` — where notes go

The log is set up once: notes go to the console and, if asked for, to a file.
Setting it up again only changes the level.  A note is written if the log's
level lets it pass and then the level of the channel; a log whose level is
unset passes warnings and graver notes.

A level is named in any case, and a name that means nothing stands for the
usual level.  But two names mean settings of the log that are no levels: the
layout of its lines, and the table of such layouts.  They are defects.
-/
import TurtleLogo.Log.Note

namespace TurtleLogo.Log

def rootName : String := "jlogo"

/-- The log with a given name, below the root. -/
def logName (name : String) : String :=
  if name == rootName || (rootName ++ ".").isPrefixOf name then name else rootName ++ "." ++ name

/-- The level that is in force where none is set. -/
def unsetLevel : Nat := 30

/-- The level of a log that nobody has set up, and of an unknown level name. -/
def usualLevel : Nat := 20

/-- A character in capitals; some outside ASCII have ASCII capitals. -/
def capitals (c : Char) : List Char :=
  match c with
  | '\u0131' => ['I']
  | '\u017f' => ['S']
  | '\ufb05' | '\ufb06' => ['S', 'T']
  | c => [c.toUpper]

/-- The usual layout of a line, as it is written. -/
def usualLayout : String := "'%(levelname)s:%(name)s:%(message)s'"

/-- The table of layouts, as it is written. -/
def layoutTable : String :=
  "\x7b'%': (<class 'logging.PercentStyle'>, " ++ usualLayout ++
    "), '\x7b': (<class 'logging.StrFormatStyle'>, '\x7blevelname\x7d:\x7bname\x7d:\x7bmessage\x7d'), " ++
    "'$': (<class 'logging.StringTemplateStyle'>, '$\x7blevelname\x7d:$\x7bname\x7d:$\x7bmessage\x7d')\x7d"

/-- The level with a given name. -/
def levelNamed (name : String) : Except Defect Nat :=
  match String.ofList (name.toList.flatMap capitals) with
  | "DEBUG" => .ok 10
  | "INFO" => .ok 20
  | "WARNING" | "WARN" => .ok 30
  | "ERROR" => .ok 40
  | "CRITICAL" | "FATAL" => .ok 50
  | "NOTSET" => .ok 0
  | "BASIC_FORMAT" => .error (.unknownLevel usualLayout)
  | "_STYLES" => .error (.noLevel layoutTable)
  | _ => .ok usualLevel

/-- Whether a log of a given level takes a note of a given rank. -/
def passes (level rank : Nat) : Bool :=
  (if level == 0 then unsetLevel else level) ≤ rank

/-- Where notes are written. -/
inductive Channel where
  | console
  | file
deriving DecidableEq, Repr

/-- A channel with its level. -/
structure Handler where
  channel : Channel
  level : Nat
deriving DecidableEq, Repr

/-- The log: its level, its handlers, and what they have written. -/
structure Logger where
  level : Nat := usualLevel
  handlers : List Handler := []
  configured : Bool := false
  console : String := ""
  file : String := ""

/-- The place of the time in a line of the log. -/
def timeMark : String := "TIME"

def lineFor (name : String) (severity : Severity) (message : String) : String :=
  timeMark ++ " - " ++ name ++ " - " ++ severity.word ++ " - " ++ message ++ "\n"

namespace Logger

def write (l : Logger) (line : String) : Channel → Logger
  | .console => { l with console := l.console ++ line }
  | .file => { l with file := l.file ++ line }

/-- Notes a message under the name of a log. -/
def log (l : Logger) (name : String) (severity : Severity) (message : String) : Logger :=
  if passes l.level severity.rank then
    (l.handlers.filter fun h => h.level ≤ severity.rank).foldl
      (fun l h => l.write (lineFor name severity message) h.channel) l
  else l

def addHandler (l : Logger) (channel : Channel) (level : Nat) : Logger :=
  { l with handlers := l.handlers ++ [⟨channel, level⟩] }

/-- Adds the file, or tells why it cannot be written. -/
def addFile (l : Logger) (level : Nat) : Option String → Logger
  | none => l.addHandler .file level
  | some reason => l.log rootName .warning ("Could not set up file logging: " ++ reason)

/-- Sets the log up with a level.  `file` is the file asked for, with the reason why it cannot
be written, if there is one. -/
def setupAt (l : Logger) (level : Nat) (file : Option (Option String)) : Logger :=
  let l := { l with level := level }
  if l.configured then
    { l with handlers := l.handlers.map fun h => { h with level := level } }
  else
    let l := l.addHandler .console level
    let l := match file with
      | some failure => l.addFile level failure
      | none => l
    { l with configured := true }

/-- Sets the log up with the level that has a given name. -/
def setup (l : Logger) (levelName : String) (file : Option (Option String)) : Except Defect Logger :=
  (levelNamed levelName).map fun level => l.setupAt level file

end Logger

end TurtleLogo.Log
