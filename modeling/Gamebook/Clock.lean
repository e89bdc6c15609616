import Gamebook.Number.Shortest

/-!
# Clock readings

A reading counts microseconds from the start of 1970. It is written as a date and time, and counted
in milliseconds by way of a double number of seconds.
-/

namespace Gamebook

/-- Microseconds from the start of 1970. -/
structure Instant where
  micros : Int
deriving DecidableEq

namespace Instant

/-- The digits of a number with zeros in front up to a width. -/
def padded (width n : Nat) : List Char :=
  let digits := decimalDigits n
  List.replicate (width - digits.length) '0' ++ digits

/-- The year, month and day that lie a number of days after the first of March of the year zero.
Years are counted from March, so that a leap day comes last. -/
def dateOfDay (day : Int) : Int × Nat × Nat :=
  let era := Int.fdiv day 146097
  let dayOfEra := (Int.fmod day 146097).toNat
  let yearOfEra := (dayOfEra - dayOfEra / 1460 + dayOfEra / 36524 - dayOfEra / 146096) / 365
  let dayOfYear := dayOfEra - (365 * yearOfEra + yearOfEra / 4 - yearOfEra / 100)
  let month := (5 * dayOfYear + 2) / 153
  let dayOfMonth := dayOfYear - (153 * month + 2) / 5 + 1
  let year := era * 400 + yearOfEra
  if month < 10 then (year, month + 3, dayOfMonth) else (year + 1, month - 9, dayOfMonth)

/-- The number of days from the first of March of the year zero to the start of 1970. -/
def epochDay : Int := 719468

/-- The reading as a date and time; a fraction of a second is written if there is one. -/
def iso (t : Instant) : String :=
  let seconds := Int.fdiv t.micros 1000000
  let fraction := (Int.fmod t.micros 1000000).toNat
  let (year, month, day) := dateOfDay (Int.fdiv seconds 86400 + epochDay)
  let time := (Int.fmod seconds 86400).toNat
  String.ofList
    (padded 4 year.toNat ++ '-' :: padded 2 month ++ '-' :: padded 2 day ++ 'T' ::
      padded 2 (time / 3600) ++ ':' :: padded 2 (time / 60 % 60) ++ ':' :: padded 2 (time % 60) ++
      (if fraction = 0 then [] else '.' :: padded 6 fraction) ++ ['Z'])

/-- The reading in seconds, rounded to a double. -/
def seconds (t : Instant) : Double := .ofRatio (decide (t.micros < 0)) t.micros.natAbs 1000000

/-- The reading in milliseconds: the seconds times a thousand, without the fraction. -/
def millis (t : Instant) : Int := (t.seconds.scale 1000).truncate

end Instant

end Gamebook
