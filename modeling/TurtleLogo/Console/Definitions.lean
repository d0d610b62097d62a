/-
# `TurtleLogo.Console.Definitions` — variables given on the command line

A definition is a text made of a name, an equals sign and a value: a number if
the value reads as one, and a string otherwise.  A name that is defined again
keeps its place.
-/
import TurtleLogo.Decimal.Reading
import TurtleLogo.Scalar
import TurtleLogo.Text.Blank
import TurtleLogo.Text.Split

namespace TurtleLogo.Console

open Text Decimal

/-- Why something is no definition: it lacks a name or an equals sign, or it is no text. -/
inductive BadDefinition where
  | malformed (item : String)
  | notText (typeName : String)
deriving DecidableEq, Repr

def malformedText (item : String) : String :=
  "expected NAME=VALUE, got " ++ quoted item

def definitionValue (cs : List Char) : Given :=
  match readReal? cs with
  | some x => .quantity (.real x)
  | none => .text (String.ofList cs)

/-- The name and the value of a definition. -/
def readDefinition (item : String) : Except BadDefinition (String × Given) :=
  match splitFirst '=' item.toList with
  | none => .error (.malformed item)
  | some (name, value) =>
    if (trim name).isEmpty then .error (.malformed item)
    else .ok (String.ofList (trim name), definitionValue value)

/-- Adds definitions in order to those already made. -/
def addDefinitions (defined : Bindings Given) : List Given → Except BadDefinition (Bindings Given)
  | [] => .ok defined
  | .text item :: items =>
    match readDefinition item with
    | .ok (name, value) => addDefinitions (Bindings.bind name value defined) items
    | .error e => .error e
  | other :: _ => .error (.notText other.typeName)

/-- The variables that definitions make. -/
def readDefinitions (items : List Given) : Except BadDefinition (Bindings Given) :=
  addDefinitions [] items

end TurtleLogo.Console
