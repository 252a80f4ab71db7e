/-!
# Points in time

An `Instant` is a date and a time of day in universal time, written as `2024-02-29T23:59:59.999Z`.

Days are counted from the first of March of the year zero, so that a leap day is the last of its
year: in every period of 400 years, which has 146097 days, the months then begin on the same days.
-/

namespace RouteInventory

/-- A date and a time of day. -/
structure Instant where
  year : Nat
  month : Nat
  day : Nat
  hour : Nat
  minute : Nat
  second : Nat
  millisecond : Nat
  deriving DecidableEq, Repr, Inhabited

namespace Instant

/-- The days from the first of March of the year zero to the first of January 1970. -/
def daysBefore1970 : Nat := 719468

/-- The years that are over in a period of 400 years, given its days that are over. -/
def yearsOver (days : Nat) : Nat := (days - days / 1460 + days / 36524 - days / 146096) / 365

/-- Year, month and day of a day counted from 1970. -/
def dateOfDay (day : Nat) : Nat × Nat × Nat :=
  let n := day + daysBefore1970
  let years := yearsOver (n % 146097)
  let dayOfYear := n % 146097 - (365 * years + years / 4 - years / 100)
  let month := (5 * dayOfYear + 2) / 153
  let year := 400 * (n / 146097) + years
  (if month < 10 then year else year + 1,
    if month < 10 then month + 3 else month - 9,
    dayOfYear - (153 * month + 2) / 5 + 1)

/-- The instant that lies some milliseconds after the beginning of 1970. -/
def ofMilliseconds (n : Nat) : Instant :=
  let (year, month, day) := dateOfDay (n / 86400000)
  ⟨year, month, day, n / 3600000 % 24, n / 60000 % 60, n / 1000 % 60, n % 1000⟩

/-- A number with at least so many digits. -/
def digits (width n : Nat) : String :=
  let s := toString n
  String.ofList (List.replicate (width - s.length) '0') ++ s

def text (t : Instant) : String :=
  s!"{digits 4 t.year}-{digits 2 t.month}-{digits 2 t.day}T"
    ++ s!"{digits 2 t.hour}:{digits 2 t.minute}:{digits 2 t.second}.{digits 3 t.millisecond}Z"

end Instant

end RouteInventory
