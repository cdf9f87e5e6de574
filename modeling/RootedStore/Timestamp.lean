/-!
# Timestamps

A moment is either that of the call that reports it, or a count of milliseconds since the start of
1970 in universal time. The calendar is the proleptic Gregorian one. Moments outside the years from
-262143 to 262142 are not representable.
-/

namespace RootedStore

inductive Timestamp where
  /-- The moment of the report. -/
  | present
  | sinceEpoch (milliseconds : Int)
  deriving DecidableEq, Repr

namespace Timestamp

structure Date where
  year : Int
  month : Nat
  day : Nat
  deriving DecidableEq, Repr

/-- The date of a day counted from the first of January 1970. Years are taken to start in March, so
that the leap day is the last day of its year; eras of four centuries all have the same length. -/
def dateOfDay (day : Int) : Date :=
  let shifted := day + 719468
  let era := shifted.fdiv 146097
  let dayOfEra := (shifted - era * 146097).toNat
  let yearOfEra := (dayOfEra - dayOfEra / 1460 + dayOfEra / 36524 - dayOfEra / 146096) / 365
  let dayOfYear := dayOfEra - (365 * yearOfEra + yearOfEra / 4 - yearOfEra / 100)
  let fromMarch := (5 * dayOfYear + 2) / 153
  let month := if fromMarch < 10 then fromMarch + 3 else fromMarch - 9
  ⟨yearOfEra + era * 400 + (if month ≤ 2 then 1 else 0), month,
    dayOfYear - (153 * fromMarch + 2) / 5 + 1⟩

def padded (width n : Nat) : String :=
  let s := toString n
  String.ofList (List.replicate (width - s.length) '0') ++ s

/-- The year in four digits; one that needs more, or lies before year zero, has a sign. -/
def yearText (y : Int) : String :=
  if 0 ≤ y ∧ y ≤ 9999 then padded 4 y.toNat
  else (if y < 0 then "-" else "+") ++ padded 4 y.natAbs

def millisecondsPerDay : Int := 86400000

/-- The moment of a count of milliseconds, if it is representable; that of the report if not. -/
def ofMilliseconds (ms : Int) : Timestamp :=
  let year := (dateOfDay (ms.fdiv millisecondsPerDay)).year
  if -262143 ≤ year ∧ year ≤ 262142 then .sinceEpoch ms else .present

/-- Date and time of day in universal time, milliseconds only where they are not zero. -/
def textOfMilliseconds (ms : Int) : String :=
  let date := dateOfDay (ms.fdiv millisecondsPerDay)
  let rest := (ms - ms.fdiv millisecondsPerDay * millisecondsPerDay).toNat
  let fraction := rest % 1000
  yearText date.year ++ "-" ++ padded 2 date.month ++ "-" ++ padded 2 date.day ++ "T" ++
    padded 2 (rest / 3600000) ++ ":" ++ padded 2 (rest / 60000 % 60) ++ ":" ++
    padded 2 (rest / 1000 % 60) ++ (if fraction = 0 then "" else "." ++ padded 3 fraction) ++ "Z"

/-- The moment as text; `now` is the moment of the report. -/
def text (now : Int) : Timestamp → String
  | .present => textOfMilliseconds now
  | .sinceEpoch ms => textOfMilliseconds ms

end Timestamp

end RootedStore
