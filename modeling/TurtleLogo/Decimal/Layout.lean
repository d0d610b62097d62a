/-
# `TurtleLogo.Decimal.Layout` — how numbers are written

Two notations are in use.  Results and messages keep the `.0` of a whole
number; the turtle's reports leave it out.  Both write moderate numbers
positionally and the others with an exponent of at least two digits.  Duty
cycles are written with six places after the point.
-/
import TurtleLogo.Decimal.Shortest

namespace TurtleLogo.Decimal

/-- The decisions of a notation: exponents from `least` to `greatest` are written positionally,
and a whole number keeps its point if `pointed` holds. -/
structure Layout where
  least : Int
  greatest : Int
  pointed : Bool
deriving DecidableEq, Repr

/-- The notation of results and messages. -/
def Layout.full : Layout := ⟨-4, 15, true⟩

/-- The notation of the turtle's reports. -/
def Layout.brief : Layout := ⟨-4, 15, false⟩

def digitChar (n : Nat) : Char :=
  Char.ofNat ('0'.toNat + n)

def digitsText (ds : List Nat) : List Char :=
  ds.map digitChar

def natText (n : Nat) : String :=
  toString n

def intText (n : Int) : String :=
  if n < 0 then "-" ++ natText n.natAbs else natText n.natAbs

/-- A whole part and the digits behind the point. -/
def pointedText (n : Layout) (whole fraction : List Char) : List Char :=
  if fraction.isEmpty then whole ++ (if n.pointed then ['.', '0'] else [])
  else whole ++ '.' :: fraction

/-- Digits written without an exponent. -/
def positional (n : Layout) (d : Digits) : List Char :=
  let ds := digitsText d.digits
  if d.exponent < 0 then
    pointedText n ['0'] (List.replicate (-d.exponent - 1).toNat '0' ++ ds)
  else
    let size := d.exponent.toNat + 1
    pointedText n (ds.take size ++ List.replicate (size - ds.length) '0') (ds.drop size)

/-- The exponent part: a sign and at least two digits. -/
def exponentText (e : Int) : List Char :=
  let ds := (natText e.natAbs).toList
  'e' :: (if e < 0 then '-' else '+') :: (if ds.length < 2 then '0' :: ds else ds)

/-- Digits written with an exponent. -/
def scientific (d : Digits) : List Char :=
  let ds := digitsText d.digits
  ds.take 1 ++ (if ds.length ≤ 1 then [] else '.' :: ds.drop 1) ++ exponentText d.exponent

/-- The digits of a positive number in a notation. -/
def Layout.layOut (n : Layout) (d : Digits) : List Char :=
  if n.least ≤ d.exponent && d.exponent ≤ n.greatest then positional n d else scientific d

/-- A sign in front of a text. -/
def signed (negative : Bool) (cs : List Char) : String :=
  String.ofList (if negative then '-' :: cs else cs)

def Layout.text (n : Layout) (x : Float) : String :=
  match parts x with
  | .notANumber => "nan"
  | .infinite negative => signed negative ['i', 'n', 'f']
  | .finite d =>
    if d.mantissa == 0 then signed d.negative (pointedText n ['0'] [])
    else signed d.negative (n.layOut (shortest d))

/-- Digits padded with zeros in front. -/
def padded (width : Nat) (cs : List Char) : List Char :=
  List.replicate (width - cs.length) '0' ++ cs

/-- A number with exactly `places` digits behind the point, a tie to the even neighbour. -/
def fixedText (places : Nat) (x : Float) : String :=
  match parts x with
  | .notANumber => "nan"
  | .infinite negative => signed negative ['i', 'n', 'f']
  | .finite d =>
    let (num, den) := scaleByTwo d.mantissa 1 d.exponent
    let ds := padded (places + 1) (natText (roundQuotient (num * tenTo places) den)).toList
    let split := ds.length - places
    signed d.negative (ds.take split ++ '.' :: ds.drop split)

end TurtleLogo.Decimal
