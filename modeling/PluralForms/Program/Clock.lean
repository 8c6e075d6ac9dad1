/-!
# Timestamps of log lines

Log lines start with the UTC time they were written, as `YYYY-MM-DDTHH:MM:SS.ffffffZ` with
microseconds. The calendar date of a day count since 1970-01-01 follows the proleptic Gregorian
calendar, computed in 400-year eras of 146097 days, with years counted from March so that the
leap day comes last.
-/

namespace PluralForms

namespace Program

def padded (width n : Nat) : String :=
  let s := toString n
  String.ofList (List.replicate (width - s.length) '0') ++ s

/-- The year, month and day of a day count since 1970-01-01. -/
def civilDate (days : Nat) : Nat × Nat × Nat :=
  let z := days + 719468
  let era := z / 146097
  let doe := z - era * 146097
  let yoe := (doe - doe / 1460 + doe / 36524 - doe / 146096) / 365
  let doy := doe - (365 * yoe + yoe / 4 - yoe / 100)
  let mp := (5 * doy + 2) / 153
  let d := doy - (153 * mp + 2) / 5 + 1
  let m := if mp < 10 then mp + 3 else mp - 9
  let y := yoe + era * 400 + (if m ≤ 2 then 1 else 0)
  (y, m, d)

/-- The timestamp of a time given in nanoseconds since 1970-01-01T00:00:00Z; earlier times are
written as that moment. -/
def timestampText (nanos : Int) : String :=
  let n := nanos.toNat
  let seconds := n / 1000000000
  let micros := (n % 1000000000) / 1000
  let (y, m, d) := civilDate (seconds / 86400)
  let s := seconds % 86400
  padded 4 y ++ "-" ++ padded 2 m ++ "-" ++ padded 2 d ++ "T" ++ padded 2 (s / 3600) ++ ":" ++
    padded 2 (s / 60 % 60) ++ ":" ++ padded 2 (s % 60) ++ "." ++ padded 6 micros ++ "Z"

end Program

end PluralForms
