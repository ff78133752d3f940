import GraphBroker.Decimal.Double

/-!
# Doubles as texts

A double is written with the fewest digits that stand for it and for no other
double; of several such numbers the nearest is taken, and of two that are
equally near the greater one. There is no exponent, and no point behind a whole
number.

## Main definitions

* `Double.shortest`: the digits of a double.
* `Double.toText`: a double as a text.
-/

namespace GraphBroker.Double

/-- Whether a fraction lies among the numbers nearest to the double with so many units: it is
closer to it than to its neighbours. Below a power of two the neighbour is nearer. -/
def standsFor (units : Nat) (power : Int) (n d : Nat) : Bool :=
  let (n, d) := scaled 2 (2 - power) n d
  let low := if units = Nat.pow 2 52 ∧ leastPower < power then 4 * units - 1 else 4 * units - 2
  let high := 4 * units + 2
  if units % 2 = 0 then low * d ≤ n ∧ n ≤ high * d else low * d < n ∧ n < high * d

/-- The number of so many tens, or tenths, that stands for the double; the nearer one, if both
neighbours do. -/
def onGrid? (units : Nat) (power place : Int) : Option Nat :=
  let (n, d) := scaled 2 power units 1
  let (n, d) := scaled 10 (-place) n d
  let below := n / d
  let fits (digits : Nat) : Bool :=
    let (a, b) := scaled 10 place digits 1
    standsFor units power a b
  let takesAbove := fits (below + 1) && (!fits below || d ≤ 2 * (n % d))
  if takesAbove then some (below + 1) else if fits below then some below else none

/-- The digits of the double with so many units, and the power of ten they are multiplied by.
Twenty digits are always enough. -/
def shortest (units : Nat) (power : Int) : Nat × Int :=
  let top : Int := (units.log2 + power) * 30103 / 100000 + 2
  let found := (List.range 24).findSome? fun (i : Nat) =>
    (onGrid? units power (top - i)).map fun digits => (digits, top - i)
  found.getD (0, 0)

/-- A whole number times a power of ten, without an exponent. -/
def positional (digits : Nat) (power : Int) : String :=
  let ds := Nat.toDigits 10 digits
  match power with
  | .ofNat k => String.ofList (ds ++ List.replicate k '0')
  | .negSucc k =>
    let filled := List.replicate (k + 2 - ds.length) '0' ++ ds
    let whole := filled.length - (k + 1)
    String.ofList (filled.take whole ++ '.' :: filled.drop whole)

/-- A double as a text. -/
def toText : Double → String
  | nan => "NaN"
  | infinite negative => if negative then "-inf" else "inf"
  | finite negative units power =>
    let body :=
      if units = 0 then "0"
      else
        let (digits, place) := shortest units power
        positional digits place
    if negative then "-" ++ body else body

end GraphBroker.Double
