import BicepTemplates.Double.Basic

/-! # Shortest decimal text

Of the decimal numbers that read back as a given double, the ones with the coarsest last digit are
the shortest, and of these the nearest is printed. The text is positional, never with an exponent.
-/

namespace BicepTemplates.Double

/-- A positive double, and the ends of the interval of numbers that read back as it, all over one
denominator. -/
structure Interval where
  low : Nat
  value : Nat
  high : Nat
  den : Nat
  /-- Whether the ends themselves read back. -/
  closed : Bool

/-- The interval reaches half way to the two neighbours. The lower one is nearer below a power
of two. -/
def interval (significand : Nat) (exponent : Int) : Interval :=
  let unit := Nat.pow 2 exponent.toNat
  let below := if significand = Nat.pow 2 52 ∧ minExponent < exponent then unit else 2 * unit
  { low := 4 * significand * unit - below
    value := 4 * significand * unit
    high := 4 * significand * unit + 2 * unit
    den := 4 * Nat.pow 2 (-exponent).toNat
    closed := significand % 2 == 0 }

namespace Interval

/-- A number in units of the denominator's grid: `digits` times a power of ten. -/
def scaled (i : Interval) (digits : Nat) (exponent : Int) : Nat :=
  digits * i.den * Nat.pow 10 exponent.toNat

/-- A numerator of the interval, scaled like `scaled`. -/
def lifted (x : Nat) (exponent : Int) : Nat := x * Nat.pow 10 (-exponent).toNat

def contains (i : Interval) (exponent : Int) (digits : Nat) : Bool :=
  let x := i.scaled digits exponent
  let low := lifted i.low exponent
  let high := lifted i.high exponent
  0 < digits && (low < x && x < high || i.closed && (x == low || x == high))

/-- The multiple of the power of ten that lies in the interval and is nearest to the value. -/
def hit? (i : Interval) (exponent : Int) : Option Nat :=
  let value := lifted i.value exponent
  let below := value / (i.den * Nat.pow 10 exponent.toNat)
  let distance (digits : Nat) : Nat :=
    let x := i.scaled digits exponent
    (x - value) + (value - x)
  match i.contains exponent below, i.contains exponent (below + 1) with
  | true, true => some (if distance (below + 1) < distance below then below + 1 else below)
  | true, false => some below
  | false, true => some (below + 1)
  | false, false => none

end Interval

/-- The powers of ten a last digit can stand for, coarsest first. -/
def grids : List Int :=
  (List.range 640).map fun (n : Nat) => 310 - (n : Int)

/-- The shortest decimal number that reads back as a positive double: digits and exponent. -/
def shortest (significand : Nat) (exponent : Int) : Nat × Int :=
  let i := interval significand exponent
  (grids.findSome? fun e => (i.hit? e).map fun digits => (digits, e)).getD (0, 0)

/-- Digits and a power of ten without an exponent. A whole number gets one decimal place. -/
def positional (digits : List Char) (exponent : Int) : List Char :=
  if 0 ≤ exponent then digits ++ List.replicate exponent.toNat '0' ++ ['.', '0']
  else
    let places := (-exponent).toNat
    let padded := List.replicate (places + 1 - digits.length) '0' ++ digits
    padded.take (padded.length - places) ++ '.' :: padded.drop (padded.length - places)

def text : Double → String
  | finite negative significand exponent =>
    let (digits, e) := if significand = 0 then (0, 0) else shortest significand exponent
    (if negative then "-" else "") ++ String.ofList (positional (Nat.toDigits 10 digits) e)
  | infinite negative => if negative then "-inf" else "inf"
  | nan => "NaN"

end BicepTemplates.Double
