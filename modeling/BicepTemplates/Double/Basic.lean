/-! # Double precision numbers

A finite number is a significand of at most 53 bits times a power of two. Every value has one
form: the exponent is as small as the format allows, so that a number is normal exactly if its
significand has all 53 bits. A decimal number is read as the nearest double, and of two equally
near ones as the one with the even significand.
-/

namespace BicepTemplates

inductive Double where
  | finite (negative : Bool) (significand : Nat) (exponent : Int)
  | infinite (negative : Bool)
  | nan
  deriving DecidableEq, Repr

namespace Double

def minExponent : Int := -1074

def maxExponent : Int := 971

def maxSignificand : Nat := Nat.pow 2 53

def zero (negative : Bool) : Double := .finite negative 0 minExponent

/-- The quotient, rounded to the nearest whole number, a half to the even neighbour. -/
def roundDiv (num den : Nat) : Nat :=
  let quotient := num / den
  let twice := 2 * (num % den)
  if twice < den then quotient
  else if den < twice then quotient + 1
  else quotient + quotient % 2

/-- The quotient of two numbers in units of a power of two, as a fraction. -/
def inUnits (num den : Nat) (exponent : Int) : Nat × Nat :=
  (num * Nat.pow 2 (-exponent).toNat, den * Nat.pow 2 exponent.toNat)

/-- The exponent with which the quotient has 53 bits, or the least one. -/
def exponentOf (num den : Nat) : Int :=
  let guess : Int := (num.log2 : Int) - den.log2 - 52
  let (n, d) := inUnits num den guess
  max minExponent (if n < Nat.pow 2 52 * d then guess - 1 else guess)

/-- The double nearest to a positive fraction. -/
def nearest (negative : Bool) (num den : Nat) : Double :=
  let exponent := exponentOf num den
  let (n, d) := inUnits num den exponent
  let significand := roundDiv n d
  let (significand, exponent) :=
    if significand = maxSignificand then (Nat.pow 2 52, exponent + 1) else (significand, exponent)
  if maxExponent < exponent then .infinite negative else .finite negative significand exponent

/-- Decimal exponents of the leading digit beyond which every number is infinite, or zero. -/
def decimalRange : Int := 400

/-- The double nearest to a decimal number: digits, read as a whole number, times a power of
ten. -/
def ofDecimal (negative : Bool) (digits : Nat) (exponent : Int) : Double :=
  let leading : Int := (Nat.toDigits 10 digits).length + exponent
  if digits = 0 ∨ leading < -decimalRange then zero negative
  else if decimalRange < leading then .infinite negative
  else nearest negative (digits * Nat.pow 10 exponent.toNat) (Nat.pow 10 (-exponent).toNat)

def isFinite : Double → Bool
  | finite .. => true
  | _ => false

/-- Equality of the numbers: the sign of zero does not count, and NaN equals itself. -/
def sameNumber : Double → Double → Bool
  | finite _ 0 _, finite _ 0 _ => true
  | x, y => x = y

end Double

end BicepTemplates
