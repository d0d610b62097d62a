/-
# `TurtleLogo.Error` — what can go wrong, and how it is told

An error is a cause and, once it is known, the line of the program where it
arose.  Causes belong to families, each within a wider one, up to the family
of all errors.  A defect is a failure that no program text should be able to
bring about; it is not reported to the user as an error of the program.
-/
import TurtleLogo.File.Fault
import TurtleLogo.Scalar
import TurtleLogo.Text.Quoted
import TurtleLogo.Text.Utf8

namespace TurtleLogo

open Text Decimal

/-- The families of errors. -/
inductive Family where
  | any
  | parse
  | evaluation
  | unknownVariable
  | kind
  | turtle
  | device
  | range
  | angleRange
  | dutyRange
  | noPins
  | badPattern
  | gpioUnavailable
  | pinUninitialized
deriving DecidableEq, Repr

/-- The family that contains a family. -/
def Family.parent? : Family → Option Family
  | .any => none
  | .parse | .evaluation | .turtle => some .any
  | .unknownVariable | .kind => some .evaluation
  | .device => some .turtle
  | .range | .angleRange | .dutyRange | .noPins | .badPattern | .gpioUnavailable
  | .pinUninitialized => some .device

/-- How many families contain a family. -/
def Family.depth : Family → Nat
  | .any => 0
  | .parse | .evaluation | .turtle => 1
  | .unknownVariable | .kind | .device => 2
  | .range | .angleRange | .dutyRange | .noPins | .badPattern | .gpioUnavailable
  | .pinUninitialized => 3

/-- A family and the next `n` that contain it. -/
def Family.within (f : Family) : Nat → List Family
  | 0 => [f]
  | n + 1 =>
    match f.parent? with
    | none => [f]
    | some g => f :: g.within n

/-- A family and all that contain it, the widest last. -/
def Family.chain (f : Family) : List Family :=
  f.within f.depth

/-- What the parser met in place of something that fits. -/
inductive Surprise where
  | character (c : Char)
  | token (name text : String) (expected : List String)
  | endOfText
  | told (message : String)
deriving DecidableEq, Repr

/-- Where an operand stands. -/
inductive Side where
  | left
  | right
deriving DecidableEq, Repr

def Side.operandWord : Side → String
  | .left => "lhs"
  | .right => "rhs"

/-- The causes of errors. -/
inductive Cause where
  | told (family : Family) (message : String)
  | parse (what : Surprise) (column : Option Int) (context : String)
  | unknownVariable (name : String)
  | operandKind (operator : String) (side : Side) (got : Kind)
  | comparedKind (operator : String) (wanted got : Kind)
  | incomparable (operator : String) (got : Kind)
  | notANumber (what : String) (got : Kind)
  | unusable (typeName : String)
  | endlessSleep (millis : Quantity)
  | undrivable (amount : Quantity)
  | outOfRange (value low high : Quantity)
  | angleRange
  | dutyRange
  | noPins
  | badPattern
  | gpioUnavailable (pin : Int)
  | pinUninitialized (pin : Int)
  | notOpened (path reason : String)
  | notWritten (target reason : String)

/-- The narrowest family of a cause. -/
def Cause.family : Cause → Family
  | .told f _ => f
  | .parse .. => .parse
  | .unknownVariable _ => .unknownVariable
  | .operandKind .. | .comparedKind .. | .incomparable .. | .notANumber .. | .unusable _ => .kind
  | .endlessSleep _ => .evaluation
  | .undrivable _ => .turtle
  | .outOfRange .. => .range
  | .angleRange => .angleRange
  | .dutyRange => .dutyRange
  | .noPins => .noPins
  | .badPattern => .badPattern
  | .gpioUnavailable _ => .gpioUnavailable
  | .pinUninitialized _ => .pinUninitialized
  | .notOpened .. | .notWritten .. => .device

/-- The wording of what the parser met. -/
def Surprise.message : Surprise → String
  | .character c => "unexpected character " ++ quoted (String.singleton c)
  | .token name text expected =>
    "unexpected " ++ name ++ " " ++ quoted text ++ ", expected one of: " ++
      (if expected.isEmpty then "nothing" else String.intercalate ", " expected)
  | .endOfText => "unexpected end of input"
  | .told message => message

def Cause.message : Cause → String
  | .told _ message => message
  | .parse what _ _ => what.message
  | .unknownVariable name => "unknown variable " ++ quoted name
  | .operandKind operator side got =>
    "invalid arguments for " ++ operator ++ ": " ++ side.operandWord ++
      " must be a number, got " ++ got.word
  | .comparedKind operator wanted got =>
    "rhs of " ++ operator ++ " must be a " ++ wanted.word ++ ", got " ++ got.word
  | .incomparable operator got =>
    "lhs of " ++ operator ++ " must be a number or string, got " ++ got.word
  | .notANumber what got => what ++ " must be a number, got " ++ got.word
  | .unusable typeName => "cannot use " ++ typeName ++ " as a value"
  | .endlessSleep millis => "SLEEP duration must be finite, got " ++ millis.text
  | .undrivable amount => "cannot drive the wheels through " ++ amount.text
  | .outOfRange value low high =>
    "value " ++ value.text ++ " out of range [" ++ low.text ++ ", " ++ high.text ++ "]"
  | .angleRange => "max angle not greater than min"
  | .dutyRange => "max duty cycle not greater than min"
  | .noPins => "no pins"
  | .badPattern => "pattern doesn't match pins"
  | .gpioUnavailable pin =>
    "gpio not available for pin " ++ intText pin ++ ", please install wiringpi"
  | .pinUninitialized pin => "pin " ++ intText pin ++ " not initialized"
  | .notOpened path reason => "could not open " ++ path ++ ": " ++ reason
  | .notWritten target reason => "write to " ++ target ++ " failed: " ++ reason

/-- An error of a program or of the turtle that runs it. -/
structure LogoError where
  cause : Cause
  line : Option Int

namespace LogoError

/-- An error whose line is not known yet. -/
def of (cause : Cause) : LogoError := ⟨cause, none⟩

/-- Puts an error without a line on a line. -/
def at? (e : LogoError) (line : Option Int) : LogoError :=
  match e.line with
  | none => { e with line := line }
  | some _ => e

def message (e : LogoError) : String := e.cause.message

/-- The place of an error, as far as it is known. -/
def place (e : LogoError) : String :=
  match e.line, e.cause with
  | some line, .parse _ (some column) _ =>
    "line " ++ intText line ++ ", column " ++ intText column ++ ": "
  | some line, _ => "line " ++ intText line ++ ": "
  | none, _ => ""

def text (e : LogoError) : String := e.place ++ e.message

end LogoError

/-- Failures that are no errors of a program. -/
inductive Defect where
  | unsupportedValue (rendering : String)
  | unsupportedCommand (rendering : String)
  | unsupportedScalar (rendering : String)
  | missingOperator (symbol : String)
  | lacking (typeName feature : String)
  | arithmetic (fault : ArithmeticFault)
  | notANumeral (text : String)
  | neverANumeral (typeName : String)
  | closedFile
  | unsaved
  | zeroInPath
  | beyondClock
  | notText (error : Utf8Error)
  | unknownLevel (rendering : String)
  | noLevel (rendering : String)
  | stuck

def Text.Utf8Reason.words : Utf8Reason → String
  | .badStart => "invalid start byte"
  | .badContinuation => "invalid continuation byte"
  | .endOfData => "unexpected end of data"

def Text.Utf8Error.message (e : Utf8Error) : String :=
  let what :=
    if e.count == 1 then
      "byte 0x" ++ String.ofList (hexDigits 2 e.byte.toNat) ++ " in position " ++ natText e.position
    else "bytes in position " ++ natText e.position ++ "-" ++ natText (e.position + e.count - 1)
  "'utf-8' codec can't decode " ++ what ++ ": " ++ e.reason.words

/-- The wording for something that values of a type do not have. -/
def lackingText (typeName feature : String) : String :=
  "'" ++ typeName ++ "' object has no attribute '" ++ feature ++ "'"

def ArithmeticFault.message : ArithmeticFault → String
  | .tooLarge => "int too large to convert to float"
  | .quotientTooLarge => "integer division result too large for a float"
  | .zeroDivisor => "float division by zero"
  | .exponentType typeName => lackingText typeName "is_integer"

def Defect.message : Defect → String
  | .unsupportedValue rendering => "unsupported value type " ++ rendering
  | .unsupportedCommand rendering => "unsupported command " ++ rendering
  | .unsupportedScalar rendering => "unsupported scalar " ++ rendering
  | .missingOperator symbol => quoted symbol
  | .lacking typeName feature => lackingText typeName feature
  | .arithmetic fault => fault.message
  | .notANumeral text => "could not convert string to float: " ++ quoted text
  | .neverANumeral typeName =>
    "float() argument must be a string or a real number, not '" ++ typeName ++ "'"
  | .closedFile => "I/O operation on closed file."
  | .unsaved => File.Fault.full.words
  | .zeroInPath => "embedded null byte"
  | .beyondClock => "timestamp too large to convert to C _PyTime_t"
  | .notText e => e.message
  | .unknownLevel rendering => "Unknown level: " ++ rendering
  | .noLevel rendering => "Level not an integer or a valid string: " ++ rendering
  | .stuck => "parser stuck"

/-- The ways in which an action can end without a result.  The last one means that a bounded
run was cut off before its end. -/
inductive Failure where
  | error (e : LogoError)
  | defect (d : Defect)
  | unfinished

def Failure.of (cause : Cause) : Failure := .error (LogoError.of cause)

/-- Puts an error without a line on a line; other failures have none. -/
def Failure.at? (f : Failure) (line : Option Int) : Failure :=
  match f with
  | .error e => .error (e.at? line)
  | .defect d => .defect d
  | .unfinished => .unfinished

/-- The result of something that may fail. -/
abbrev Reply (α : Type) := Except Failure α

/-- The result of a calculation; that there is none is a defect. -/
def calculated {α : Type} (r : Except ArithmeticFault α) : Reply α :=
  r.mapError fun fault => .defect (.arithmetic fault)

/-- The text of a failure as it is shown to the user. -/
def Failure.text : Failure → String
  | .error e => e.text
  | .defect d => d.message
  | .unfinished => "unfinished"

end TurtleLogo
