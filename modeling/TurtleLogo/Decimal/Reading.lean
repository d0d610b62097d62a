/-
# `TurtleLogo.Decimal.Reading` — numbers out of text

A number is written as digits of any script with at most one point, with an
optional sign in front and an optional power of ten behind; or as a word for
infinity or for an undefined number, in any case.  A single underscore may
stand between two digits, and blanks other than the four ASCII separators may
surround the whole.
-/
import TurtleLogo.Decimal.Binary
import TurtleLogo.Text.Blank
import TurtleLogo.Text.Digit

namespace TurtleLogo.Decimal

open TurtleLogo.Text

/-- A character of a number: a digit by its value, or another character. -/
inductive Mark where
  | digit (value : Nat)
  | other (c : Char)
deriving DecidableEq, Repr

/-- Digits of every script are read by their value. -/
def Mark.ofChar (c : Char) : Mark :=
  match digitValue? c with
  | some d => .digit d
  | none => .other c

def Mark.isDigit : Mark → Bool
  | .digit _ => true
  | .other _ => false

/-- Takes the underscores between two digits out and refuses any other.  `after` tells whether a
digit stands before. -/
def joinGroups (after : Bool) : List Mark → Option (List Mark)
  | [] => some []
  | .other '_' :: .digit d :: ms => if after then (joinGroups true ms).map (.digit d :: ·) else none
  | .other '_' :: _ => none
  | m :: ms => (joinGroups m.isDigit ms).map (m :: ·)

/-- The digits at the front and what follows them. -/
def spanDigits : List Mark → List Nat × List Mark
  | .digit d :: ms => let (ds, rest) := spanDigits ms; (d :: ds, rest)
  | ms => ([], ms)

/-- A sign at the front: whether it is a minus, and what follows it. -/
def spanSign : List Mark → Bool × List Mark
  | .other '-' :: ms => (true, ms)
  | .other '+' :: ms => (false, ms)
  | ms => (false, ms)

def digitsValue (ds : List Nat) : Nat :=
  ds.foldl (fun n d => n * 10 + d) 0

/-- The power of ten at the end of a number; nothing else may follow. -/
def readExponent : List Mark → Option Int
  | [] => some 0
  | .other e :: ms =>
    if e == 'e' || e == 'E' then
      let (negative, ms) := spanSign ms
      match spanDigits ms with
      | ([], _) => none
      | (ds, []) => some (if negative then -(digitsValue ds : Int) else digitsValue ds)
      | (_, _ :: _) => none
    else none
  | _ => none

/-- The number `± digits · 10 ^ exponent`.  Sizes far outside the representable range are not
computed: they are infinite or zero. -/
def ofDecimal (negative : Bool) (digits : List Nat) (exponent : Int) : Float :=
  let significant := digits.dropWhile (· == 0)
  let n := digitsValue significant
  let size := (significant.length : Int) + exponent
  if n == 0 || size < -400 then ofRatio negative 0 1
  else if 400 < size then ofRatio negative (tenTo 400) 1
  else if 0 ≤ exponent then ofRatio negative (n * tenTo exponent.toNat) 1
  else ofRatio negative n (tenTo (-exponent).toNat)

/-- A number without its sign: whole digits, a point, digits behind it, a power of ten. -/
def readUnsigned (negative : Bool) (ms : List Mark) : Option Float :=
  let (whole, rest) := spanDigits ms
  let (fraction, rest) := match rest with
    | .other '.' :: ms => spanDigits ms
    | _ => ([], rest)
  if whole.isEmpty && fraction.isEmpty then none
  else (readExponent rest).map fun e => ofDecimal negative (whole ++ fraction) (e - fraction.length)

/-- The words for infinity. -/
def infinityWords : List (List Char) :=
  ["inf".toList, "infinity".toList]

/-- The letters of a word without regard to case; `none` if a digit occurs. -/
def asWord : List Mark → Option (List Char)
  | [] => some []
  | .other c :: ms => (asWord ms).map (c.toLower :: ·)
  | .digit _ :: _ => none

def readSigned (ms : List Mark) : Option Float :=
  let (negative, rest) := spanSign ms
  match asWord rest with
  | some w =>
    if infinityWords.contains w then some (if negative then -infinity else infinity)
    else if w == "nan".toList then some undefined
    else none
  | none => readUnsigned negative rest

/-- Blanks that may surround a number. -/
def isMargin (c : Char) : Bool :=
  isBlank c && !(0x1c ≤ c.toNat && c.toNat ≤ 0x1f)

/-- Reads a number from the characters of a text. -/
def readReal? (cs : List Char) : Option Float :=
  match joinGroups false ((trimBy isMargin cs).map Mark.ofChar) with
  | some ms => readSigned ms
  | none => none

end TurtleLogo.Decimal
