import GraphBroker.Text.Digits

/-!
# Doubles

The floating-point numbers of 64 bits, in exact arithmetic: a decimal number
stands for the double nearest to it.

## Main definitions

* `Double`: a double.
* `Double.ofDecimal`: the double nearest to a decimal number.
* `Double.ofText?`: the double that a text spells.
* `Double.round?`: the nearest whole number.
* `Double.isInfiniteTimes`: whether a product of doubles is beyond every number.
-/

namespace GraphBroker

/-- A double. -/
inductive Double where
  /-- No number. -/
  | nan
  /-- Beyond every number of its sign. -/
  | infinite (negative : Bool)
  /-- So many units, each of which is two to that power. There are less than `2 ^ 53` units,
  and the power is as small as it may be. -/
  | finite (negative : Bool) (units : Nat) (power : Int)
deriving DecidableEq, Repr

namespace Double

/-- The power of two of the smallest unit. -/
def leastPower : Int := -1074

/-- The power of two of the greatest unit. -/
def greatestPower : Int := 971

/-- A quotient as a whole number; a half goes to the even neighbour. -/
def nearestEven (n d : Nat) : Nat :=
  let q := n / d
  let r := n % d
  if d < 2 * r ∨ (2 * r = d ∧ q % 2 = 1) then q + 1 else q

/-- A quotient and a power of a base as a fraction. -/
def scaled (base : Nat) (power : Int) (n d : Nat) : Nat × Nat :=
  match power with
  | .ofNat k => (n * Nat.pow base k, d)
  | .negSucc k => (n, d * Nat.pow base (k + 1))

/-- A fraction in units of two to that power. -/
def unitsOf (power : Int) (n d : Nat) : Nat :=
  let (n, d) := scaled 2 (-power) n d
  nearestEven n d

/-- The double nearest to a fraction. -/
def ofFraction (negative : Bool) (n d : Nat) : Double :=
  if n = 0 then finite negative 0 leastPower
  else
    let low : Int := n.log2 - d.log2 - 53
    let (a, b) := scaled 2 (-low) n d
    let power := max leastPower (if a / b < Nat.pow 2 53 then low else low + 1)
    let units := unitsOf power n d
    let (units, power) :=
      if units = Nat.pow 2 53 then (Nat.pow 2 52, power + 1) else (units, power)
    if greatestPower < power then infinite negative else finite negative units power

/-- The double nearest to a whole number. -/
def ofNat (n : Nat) : Double :=
  ofFraction false n 1

/-- The double nearest to a whole number times a power of ten. A number that is far beyond all
doubles, or far below, need not be written out. -/
def ofDecimal (negative : Bool) (digits : Nat) (power : Int) : Double :=
  let size : Int := digits.log2 * 30103 / 100000 + power
  if digits = 0 ∨ size < -400 then finite negative 0 leastPower
  else if 400 < size then infinite negative
  else
    let (n, d) := scaled 10 power digits 1
    ofFraction negative n d

/-! ### Reading -/

/-- The sign of a number and what follows it. -/
def signed : List Char → Bool × List Char
  | '-' :: rest => (true, rest)
  | '+' :: rest => (false, rest)
  | rest => (false, rest)

/-- The number that decimal digits write; there is at least one. -/
def digits? (ds : List Char) : Option Nat :=
  if !ds.isEmpty && ds.all Char.isDigit then some (Text.ofDigits ds) else none

/-- The exponent that a mark and a number with an optional sign write, or none at all. -/
def exponent? : List Char → Option Int
  | [] => some 0
  | _ :: rest =>
    let (negative, ds) := signed rest
    (digits? ds).map fun n => if negative then -(n : Int) else n

/-- The double that a text spells: a number with an optional sign, point and exponent, or one
of the words for what is beyond all numbers. -/
def ofText? (text : String) : Option Double :=
  let (negative, cs) := signed text.toList
  let word := (String.ofList cs).toLower
  if word = "nan" then some nan
  else if word = "inf" ∨ word = "infinity" then some (infinite negative)
  else do
    let isMark := fun c : Char => c == 'e' || c == 'E'
    let mantissa := cs.takeWhile (!isMark ·)
    let whole := mantissa.takeWhile (· != '.')
    let fraction := (mantissa.dropWhile (· != '.')).drop 1
    let n ← digits? (whole ++ fraction)
    let exponent ← exponent? (cs.dropWhile (!isMark ·))
    return ofDecimal negative n (exponent - fraction.length)

/-! ### Arithmetic -/

/-- Whether a double is zero. -/
def isZero : Double → Bool
  | finite _ units _ => units == 0
  | _ => false

/-- Whether a double is beyond every number. -/
def isInfinite : Double → Bool
  | infinite _ => true
  | _ => false

/-- The nearest whole number; a half goes away from zero. -/
def round? : Double → Option Int
  | finite negative units power =>
    let (n, d) := scaled 2 power units 1
    let rounded := (2 * n + d) / (2 * d)
    some (if negative then -(rounded : Int) else rounded)
  | _ => none

/-- Whether the product of two doubles, rounded to a double, is beyond every number. -/
def isInfiniteTimes : Double → Double → Bool
  | finite _ a p, finite _ b q =>
    let (n, d) := scaled 2 (p + q) (a * b) 1
    (ofFraction false n d).isInfinite
  | a, b => a.isInfinite || b.isInfinite

end Double

end GraphBroker
