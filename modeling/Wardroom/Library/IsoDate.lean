import Mathlib.Data.List.Basic

/-! # The ISO text of a point in time

The proleptic Gregorian date of a count of milliseconds since 1970, as
`Date.prototype.toISOString` writes it.
-/

namespace Wardroom.Library.IsoDate

/-- Year, month and day of a day number, counted in 400-year eras from 1 March of year 0. -/
def civil (days : Int) : Int × Nat × Nat :=
  let z := days + 719468
  let era := z / 146097
  let doe := (z % 146097).toNat
  let yoe := (doe - doe / 1460 + doe / 36524 - doe / 146096) / 365
  let doy := doe - (365 * yoe + yoe / 4 - yoe / 100)
  let mp := (5 * doy + 2) / 153
  let day := doy - (153 * mp + 2) / 5 + 1
  let month := if mp < 10 then mp + 3 else mp - 9
  (yoe + era * 400 + if month ≤ 2 then 1 else 0, month, day)

def pad (width n : Nat) : String :=
  let text := toString n
  String.ofList (List.replicate (width - text.length) '0') ++ text

/-- Years outside 0 to 9999 carry a sign and six digits. -/
def year (y : Int) : String :=
  if 0 ≤ y ∧ y ≤ 9999 then pad 4 y.toNat
  else if 0 ≤ y then "+" ++ pad 6 y.toNat
  else "-" ++ pad 6 (-y).toNat

/-- None outside the range of a time value. -/
def ofMillis (ms : Int) : Option String :=
  if ms < -8640000000000000 ∨ 8640000000000000 < ms then none
  else
    let (y, month, day) := civil (ms / 86400000)
    let t := (ms % 86400000).toNat
    some (year y ++ "-" ++ pad 2 month ++ "-" ++ pad 2 day ++ "T" ++ pad 2 (t / 3600000) ++ ":" ++
      pad 2 (t / 60000 % 60) ++ ":" ++ pad 2 (t / 1000 % 60) ++ "." ++ pad 3 (t % 1000) ++ "Z")

def digitsValue (cs : List Char) : Nat := cs.foldl (fun n c => 10 * n + (c.toNat - 48)) 0

/-- A number's canonical text as whole milliseconds, truncated towards zero. An exponent is
written from 1e21 upwards, past every time value, and below 1e-6, which truncates to zero. -/
def millisOfText (text : String) : Option Int :=
  let cs := text.toList
  let sign := cs.head? = some '-'
  let body := if sign then cs.drop 1 else cs
  if body.contains 'e' then if body.contains '-' then some 0 else none
  else
    let n : Int := digitsValue (body.takeWhile fun c => c ≠ '.')
    some (if sign then -n else n)

example : ofMillis 951782400123 = some "2000-02-29T00:00:00.123Z" := by decide

end Wardroom.Library.IsoDate
