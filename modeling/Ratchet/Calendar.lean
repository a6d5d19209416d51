namespace Ratchet

/-!
# Calendar

Dates of the proleptic Gregorian calendar and moments of a day, as log lines
show them and documents may hold them.  Days are counted from 1970-01-01.
-/

/-- A calendar date. -/
structure Date where
  year : Int
  month : Nat
  day : Nat
  deriving DecidableEq, Inhabited

namespace Date

def isLeap (year : Int) : Bool :=
  year % 4 == 0 && (year % 100 != 0 || year % 400 == 0)

/-- The number of days in a month, zero for a month that does not exist. -/
def daysIn (year : Int) (month : Nat) : Nat :=
  match month with
  | 2 => if isLeap year then 29 else 28
  | 4 | 6 | 9 | 11 => 30
  | 1 | 3 | 5 | 7 | 8 | 10 | 12 => 31
  | _ => 0

/-- The date that lies `days` days after 1970-01-01.  Years are counted from
March, which puts the leap day last. -/
def ofDays (days : Int) : Date :=
  let z := days + 719468
  let era := z.fdiv 146097
  let doe := z - era * 146097
  let yoe := (doe - doe / 1460 + doe / 36524 - doe / 146096) / 365
  let doy := doe - (365 * yoe + yoe / 4 - yoe / 100)
  let mp := (5 * doy + 2) / 153
  let day := doy - (153 * mp + 2) / 5 + 1
  let month := if mp < 10 then mp + 3 else mp - 9
  ⟨yoe + era * 400 + (if month ≤ 2 then 1 else 0), month.toNat, day.toNat⟩

/-- The number of days from 1970-01-01 to a date. -/
def toDays (d : Date) : Int :=
  let y := if d.month ≤ 2 then d.year - 1 else d.year
  let era := y.fdiv 400
  let yoe := y - era * 400
  let mp : Int := if 2 < d.month then (d.month : Int) - 3 else (d.month : Int) + 9
  let doy := (153 * mp + 2) / 5 + (d.day : Int) - 1
  let doe := yoe * 365 + yoe / 4 - yoe / 100 + doy
  era * 146097 + doe - 719468

/-- Days since 1 January, counted from one. -/
def dayOfYear (d : Date) : Nat :=
  (d.toDays - (Date.mk d.year 1 1).toDays).toNat + 1

/-- Days since Monday. -/
def weekday (d : Date) : Nat :=
  ((d.toDays + 3) % 7).toNat

end Date

/-- A date and a time of day, with the offset from universal time in seconds
when one is known. -/
structure Moment where
  date : Date
  hour : Nat
  minute : Nat
  second : Nat
  microsecond : Nat
  offset : Option Int
  deriving DecidableEq, Inhabited

namespace Moment

/-- The universal time a number of microseconds after the start of 1970. -/
def ofMicroseconds (count : Int) : Moment :=
  let seconds := count.fdiv 1000000
  let days := seconds.fdiv 86400
  let ofDay := (seconds - days * 86400).toNat
  { date := Date.ofDays days
    hour := ofDay / 3600
    minute := ofDay / 60 % 60
    second := ofDay % 60
    microsecond := (count - seconds * 1000000).toNat
    offset := some 0 }

/-- The number of seconds from the start of 1970 to a moment by its own clock. -/
def clockSeconds (m : Moment) : Int :=
  m.date.toDays * 86400 + m.hour * 3600 + m.minute * 60 + m.second

/-- The same moment in universal time, if its distance from that is known. -/
def universal (m : Moment) : Moment :=
  match m.offset with
  | some seconds => ofMicroseconds ((m.clockSeconds - seconds) * 1000000 + m.microsecond)
  | none => m

end Moment

end Ratchet
