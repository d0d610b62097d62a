/-
# `TurtleLogo.Console.Options` — the command line

Options may be abbreviated as long as that is unambiguous.  The value of an
option stands behind it, or behind an equals sign, or directly behind a short
spelling; a value in one argument with its option that is just two dashes is
no value.  Short options without a value may share one dash.  What looks like
a negative number or holds a space is no option, nor is anything behind two
dashes.  All arguments are sorted out before the first option takes effect;
asking for help takes effect before the next argument is looked at.
-/
import TurtleLogo.Text.Digit
import TurtleLogo.Text.Quoted
import TurtleLogo.Text.Split

namespace TurtleLogo.Console

open Text

inductive Flag where
  | help
  | robot
  | file
  | define
  | logLevel
deriving DecidableEq, Repr

def Flag.takesValue : Flag → Bool
  | .help | .robot => false
  | .file | .define | .logLevel => true

def spellings : List (String × Flag) :=
  [("-h", .help), ("--help", .help), ("--pi", .robot), ("--file", .file), ("-f", .file),
   ("--define", .define), ("-D", .define), ("--log-level", .logLevel)]

def flagSpelled? (spelling : String) : Option Flag :=
  (spellings.find? fun s => s.1 == spelling).map Prod.snd

/-- The name of an option in messages: its spellings. -/
def Flag.names (f : Flag) : String :=
  String.intercalate "/" ((spellings.filter fun s => s.2 == f).map Prod.fst)

/-- What stands in one argument with an option, behind a long or a short spelling of it. -/
inductive Attached where
  | nothing
  | long (value : String)
  | short (value : String)
deriving DecidableEq, Repr

/-- An argument by its role. -/
inductive Argument where
  | operand (text : String)
  | dashes
  | flag (f : Flag) (attached : Attached)
  | unknown (text : String)
deriving DecidableEq, Repr

/-- A candidate for what an option means. -/
abbrev Reading := String × Flag × Attached

/-- Whether a text starts with two dashes. -/
def isLong : List Char → Bool
  | '-' :: '-' :: _ => true
  | _ => false

/-- What stands before the first equals sign, and what is attached behind it. -/
def splitEquals (cs : List Char) : Option (String × Attached) :=
  (splitFirst '=' cs).map fun (stem, value) =>
    (String.ofList stem,
      if isLong stem then .long (String.ofList value) else .short (String.ofList value))

/-- What an argument with two dashes may abbreviate. -/
def longReadings (cs : List Char) : List Reading :=
  let (stem, attached) := (splitEquals cs).getD (String.ofList cs, .nothing)
  (spellings.filter fun s => stem.toList.isPrefixOf s.1.toList).map fun s => (s.1, s.2, attached)

/-- What an argument with one dash may be: a short spelling with something behind it. -/
def shortReadings (cs : List Char) : List Reading :=
  let short := String.ofList (cs.take 2)
  (spellings.filter fun s => s.1 == short).map fun s => (s.1, s.2, .short (String.ofList (cs.drop 2)))

/-- Whether a text is some digits, behind which one line feed may stand. -/
def isDigits (cs : List Char) : Bool :=
  !(cs.takeWhile isDigit).isEmpty && (cs.dropWhile isDigit == [] || cs.dropWhile isDigit == ['\n'])

/-- Whether a text looks like a negative number: digits, or a fraction with or without digits
before its point. -/
def isNegativeNumber : List Char → Bool
  | '-' :: cs =>
    isDigits cs ||
      (match cs.dropWhile isDigit with
        | '.' :: fraction => isDigits fraction
        | _ => false)
  | _ => false

/-- The role of an argument that starts with a dash and is no exact spelling. -/
def sortDashed (text : String) (cs : List Char) : Except String Argument :=
  match (splitEquals cs).bind fun (stem, attached) => (flagSpelled? stem).map (·, attached) with
  | some (f, attached) => .ok (.flag f attached)
  | none =>
    match (if isLong cs then longReadings cs else shortReadings cs) with
    | [(_, f, attached)] => .ok (.flag f attached)
    | [] =>
      if isNegativeNumber cs || cs.contains ' ' then .ok (.operand text) else .ok (.unknown text)
    | many =>
      .error ("ambiguous option: " ++ text ++ " could match " ++
        String.intercalate ", " (many.map fun r => r.1))

/-- The role of an argument before any two dashes. -/
def sortArgument (text : String) : Except String Argument :=
  match text.toList with
  | '-' :: c :: cs =>
    match flagSpelled? text with
    | some f => .ok (.flag f .nothing)
    | none => sortDashed text ('-' :: c :: cs)
  | _ => .ok (.operand text)

/-- The roles of all arguments. -/
def sortArguments : List String → Except String (List Argument)
  | [] => .ok []
  | "--" :: rest => .ok (.dashes :: rest.map .operand)
  | text :: rest =>
    match sortArgument text with
    | .error e => .error e
    | .ok a =>
      match sortArguments rest with
      | .error e => .error e
      | .ok as => .ok (a :: as)

/-- What the command line asks for.  An option may have been given without a value. -/
structure Options where
  robot : Bool
  file : Option String
  definitions : List (Option String)
  logLevel : Option String
deriving DecidableEq, Repr

/-- How reading the command line ends. -/
inductive Parsed where
  | options (o : Options)
  | help
  | wrong (message : String)
deriving DecidableEq, Repr

def complaint (f : Flag) (message : String) : String :=
  "argument " ++ f.names ++ ": " ++ message

/-- The complaint about a value of an option that has none. -/
def ignoredValue (f : Flag) (value : List Char) : String :=
  complaint f ("ignored explicit argument " ++ quoted (String.ofList value))

/-- The last of the short options that share one dash, with what stands behind it as its value;
`f` is the one before the others. -/
def unbundle (f : Flag) : List Char → Except String (Flag × Option String)
  | [] => .error (ignoredValue f [])
  | c :: cs =>
    match flagSpelled? (String.ofList ['-', c]) with
    | none => .error (ignoredValue f (c :: cs))
    | some g =>
      if cs.isEmpty then .ok (g, none)
      else if g.takesValue then .ok (g, some (String.ofList cs))
      else unbundle g cs

/-- What an argument with an option says: the last option in it, its value if the argument holds
it, and whether help is asked for before that. -/
structure Saying where
  helpFirst : Bool
  flag : Flag
  value : Option String

def readFlag (f : Flag) : Attached → Except String Saying
  | .nothing => .ok ⟨false, f, none⟩
  | .long value =>
    if f.takesValue then .ok ⟨false, f, some value⟩ else .error (ignoredValue f value.toList)
  | .short value =>
    if f.takesValue then .ok ⟨false, f, some value⟩
    else (unbundle f value.toList).map fun (g, v) => ⟨true, g, v⟩

/-- The value that stands in one argument with its option: two dashes are none. -/
def ownValue (value : String) : Option String :=
  if value == "--" then none else some value

/-- The options after one of them has taken effect. -/
def Options.take (o : Options) (f : Flag) (value : Option String) : Options :=
  match f with
  | .help => o
  | .robot => { o with robot := true }
  | .file => { o with file := value }
  | .define => { o with definitions := o.definitions ++ [value] }
  | .logLevel => { o with logLevel := value }

/-- Lets the options take effect in order.  `extras` are the arguments that nobody takes. -/
def applyArguments (o : Options) (extras : List String) : List Argument → Parsed
  | [] =>
    if extras.isEmpty then .options o
    else .wrong ("unrecognized arguments: " ++ String.intercalate " " extras)
  | .operand text :: rest => applyArguments o (extras ++ [text]) rest
  | .unknown text :: rest => applyArguments o (extras ++ [text]) rest
  | .dashes :: rest => applyArguments o (extras ++ ["--"]) rest
  | .flag f attached :: rest =>
    match readFlag f attached with
    | .error message => .wrong message
    | .ok ⟨helpFirst, g, some v⟩ =>
      if helpFirst then .help else applyArguments (o.take g (ownValue v)) extras rest
    | .ok ⟨helpFirst, g, none⟩ =>
      if g.takesValue then
        match rest with
        | .operand v :: rest =>
          if helpFirst then .help else applyArguments (o.take g (some v)) extras rest
        | _ => .wrong (complaint g "expected one argument")
      else if helpFirst || g == .help then .help
      else applyArguments (o.take g none) extras rest

/-- Reads the command line. -/
def readArguments (defaults : Options) (args : List String) : Parsed :=
  match sortArguments args with
  | .error message => .wrong message
  | .ok arguments => applyArguments defaults [] arguments

def usageText : String :=
  "usage: jlogo [-h] [--pi] [--file FILE] [--define NAME=VALUE]\n" ++
  "             [--log-level LOG_LEVEL]\n"

def helpText (level : String) : String :=
  usageText ++ "\n" ++
  "Run Logo programs on a text turtle or a Raspberry Pi pen robot.\n\n" ++
  "options:\n" ++
  "  -h, --help            show this help message and exit\n" ++
  "  --pi                  Use the pi turtle (stepper wheels and servo pen)\n" ++
  "  --file FILE, -f FILE  Run this program instead of reading commands\n" ++
  "                        interactively\n" ++
  "  --define NAME=VALUE, -D NAME=VALUE\n" ++
  "                        Pre-set a variable; may be repeated\n" ++
  "  --log-level LOG_LEVEL\n" ++
  "                        DEBUG, INFO, WARNING or ERROR (default: " ++ level ++ ")\n"

end TurtleLogo.Console
