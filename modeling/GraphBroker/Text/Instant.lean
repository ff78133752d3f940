/-!
# Instants

An instant is a number of seconds since the start of 1970, written as a date and
a time of day in the calendar that goes on alike in both directions.

## Main definitions

* `Instant.text?`: the text of an instant, if its year is within bounds.
-/

namespace GraphBroker.Instant

/-- A number with leading zeros up to the given width. -/
def pad (width n : Nat) : String :=
  let ds := Nat.toDigits 10 n
  String.ofList (List.replicate (width - ds.length) '0' ++ ds)

/-- Year, month and day of a day counted from the first day of 1970. The year is taken to
start in March, so that the leap day comes last, and 400 years have 146097 days. -/
def date (day : Int) : Int × Nat × Nat :=
  let shifted := day + 719468
  let era := shifted / 146097
  let d := (shifted % 146097).toNat
  let year := (d - d / 1460 + d / 36524 - d / 146096) / 365
  let ofYear := d - (365 * year + year / 4 - year / 100)
  let march := (5 * ofYear + 2) / 153
  let month := if march < 10 then march + 3 else march - 9
  let start := era * 400 + year
  (if month ≤ 2 then start + 1 else start, month, ofYear - (153 * march + 2) / 5 + 1)

/-- A year: four digits, or a sign and at least four digits. -/
def yearText (year : Int) : String :=
  if 0 ≤ year ∧ year ≤ 9999 then pad 4 year.toNat
  else (if year < 0 then "-" else "+") ++ pad 4 year.natAbs

/-- The years that are written. -/
def yearBounds : Int × Int := (-262143, 262142)

/-- The text of an instant, if its year is within bounds. -/
def text? (seconds : Int) : Option String :=
  let (year, month, day) := date (seconds / 86400)
  let time := (seconds % 86400).toNat
  if yearBounds.1 ≤ year ∧ year ≤ yearBounds.2 then
    some (yearText year ++ "-" ++ pad 2 month ++ "-" ++ pad 2 day ++ "T" ++
      pad 2 (time / 3600) ++ ":" ++ pad 2 (time / 60 % 60) ++ ":" ++ pad 2 (time % 60) ++ "+00:00")
  else none

end GraphBroker.Instant
