import BicepTemplates.Yaml.Value

/-! # Resolution

A scalar without quotes means what its text looks like: null, a truth value, a whole number, a
decimal number, or else a string. Whole numbers may have a sign and may be written with a
lower-case radix mark, but a leading zero before further digits makes a string. A whole number has
to fit a machine word of 64 bits, one that needs up to 128 bits is refused, and a longer one is
read as a decimal number.
-/

namespace BicepTemplates.Yaml.Resolution

def isNull (s : String) : Bool :=
  ["", "~", "null", "Null", "NULL"].contains s

def bool? (s : String) : Option Bool :=
  if ["true", "True", "TRUE"].contains s then some true
  else if ["false", "False", "FALSE"].contains s then some false
  else none

/-- The value of a digit in any radix up to sixteen. -/
def digitValue? (c : Char) : Option Nat :=
  if c.isDigit then some (c.toNat - '0'.toNat)
  else if 'a' ≤ c ∧ c ≤ 'f' then some (c.toNat - 'a'.toNat + 10)
  else if 'A' ≤ c ∧ c ≤ 'F' then some (c.toNat - 'A'.toNat + 10)
  else none

/-- Extends a number by one digit of the radix. -/
def appendDigit? (radix : Nat) (number : Option Nat) (c : Char) : Option Nat := do
  let digit ← digitValue? c
  if digit < radix then return (← number) * radix + digit else none

/-- One digit or more. -/
def digits? (radix : Nat) (s : List Char) : Option Nat :=
  if s.isEmpty then none else s.foldl (appendDigit? radix) (some 0)

/-- A zero followed by further digits, and nothing else. -/
def isZeroLed : List Char → Bool
  | '0' :: c :: rest => (c :: rest).all Char.isDigit
  | _ => false

def unsign : List Char → List Char
  | '+' :: rest => rest
  | '-' :: rest => rest
  | s => s

def magnitude? : List Char → Option Nat
  | '0' :: 'x' :: rest => digits? 16 rest
  | '0' :: 'o' :: rest => digits? 8 rest
  | '0' :: 'b' :: rest => digits? 2 rest
  | s => if isZeroLed s then none else digits? 10 s

/-- A whole number of any size. -/
def whole? : List Char → Option Int
  | '+' :: rest => (magnitude? rest).map Int.ofNat
  | '-' :: rest => (magnitude? rest).map fun n => -(n : Int)
  | s => (magnitude? s).map Int.ofNat

/-- Digits with an optional sign. -/
def exponent? : List Char → Option Int
  | '+' :: rest => (digits? 10 rest).map Int.ofNat
  | '-' :: rest => (digits? 10 rest).map fun n => -(n : Int)
  | s => (digits? 10 s).map Int.ofNat

/-- A decimal number without a sign: digits with at most one point, then perhaps a power of ten. -/
def decimal? (s : List Char) : Option (Nat × Int) :=
  let whole := s.takeWhile Char.isDigit
  let afterWhole := s.dropWhile Char.isDigit
  let (fraction, scale) := match afterWhole with
    | '.' :: rest => (rest.takeWhile Char.isDigit, rest.dropWhile Char.isDigit)
    | rest => ([], rest)
  match digits? 10 (whole ++ fraction), scale with
  | none, _ => none
  | some digits, [] => some (digits, -fraction.length)
  | some digits, c :: rest =>
    if c = 'e' ∨ c = 'E' then (exponent? rest).map fun e => (digits, e - fraction.length)
    else none

/-- A decimal number that is not too large. -/
def finite? (negative : Bool) (s : List Char) : Option Double :=
  (decimal? s).bind fun (digits, exponent) =>
    let d := Double.ofDecimal negative digits exponent
    if d.isFinite then some d else none

def isInfinity (s : List Char) : Bool :=
  [".inf", ".Inf", ".INF"].contains (String.ofList s)

def isNaN (s : List Char) : Bool :=
  [".nan", ".NaN", ".NAN"].contains (String.ofList s)

/-- Infinity may have a sign, the value that is no number has none. -/
def double? (s : List Char) : Option Double :=
  if isNaN s then some .nan
  else
    let negative := s.head? == some '-'
    let unsigned := unsign s
    if isInfinity unsigned then some (.infinite negative) else finite? negative unsigned

def fitsWord (n : Int) : Bool := 
  -0x8000000000000000 ≤ n && n < 0x10000000000000000

def fitsDoubleWord (n : Int) : Bool := 
  -0x80000000000000000000000000000000 ≤ n && n < 0x100000000000000000000000000000000

/-- The double or the string that is neither null nor a truth value nor a whole number. -/
def doubleOrText (s : String) : Value :=
  if isZeroLed (unsign s.toList) then .text s
  else match double? s.toList with
    | some d => .double d
    | none => .text s

/-- What a plain scalar means, unless it is refused. -/
def plain? (s : String) : Option Value :=
  if isNull s then some .null
  else match bool? s, whole? s.toList with
    | some b, _ => some (.bool b)
    | none, some n =>
      if fitsWord n then some (.int n)
      else if fitsDoubleWord n then none
      else some (doubleOrText s)
    | none, none => some (doubleOrText s)

end BicepTemplates.Yaml.Resolution
