/-!
Dates and times of day of the Gregorian calendar, their written form and their order in time.
-/

namespace JsonSchema

structure Date where
  year : Nat
  month : Nat
  day : Nat
  deriving DecidableEq, Repr, Inhabited

/-- A date with a time of day. `offset` is the distance from universal time in seconds, and a
time without it is a local one. -/
structure DateTime where
  date : Date
  hour : Nat
  minute : Nat
  second : Nat
  microsecond : Nat
  offset : Option Int
  deriving DecidableEq, Repr, Inhabited

/-- A natural in decimal, with zeros in front up to a width. -/
def padded (width n : Nat) : String :=
  let ds := Nat.repr n
  String.ofList (List.replicate (width - ds.length) '0') ++ ds

namespace Date

def isLeap (year : Nat) : Bool := year % 4 = 0 && (year % 100 ≠ 0 || year % 400 = 0)

def daysIn (year month : Nat) : Nat :=
  match month with
  | 2 => if isLeap year then 29 else 28
  | 4 | 6 | 9 | 11 => 30
  | _ => 31

/-- Years run from 1 to 9999. -/
def isPossible (d : Date) : Bool :=
  1 ≤ d.year && d.year ≤ 9999 && 1 ≤ d.month && d.month ≤ 12 && 1 ≤ d.day
    && d.day ≤ daysIn d.year d.month

def daysBeforeMonth (year month : Nat) : Nat :=
  ((List.range month).filter (1 ≤ ·)).foldl (fun n m => n + daysIn year m) 0

/-- Days since the first day of the year 1. -/
def dayNumber (d : Date) : Nat :=
  let y := d.year - 1
  y * 365 + y / 4 - y / 100 + y / 400 + daysBeforeMonth d.year d.month + (d.day - 1)

def text (d : Date) : String :=
  padded 4 d.year ++ "-" ++ padded 2 d.month ++ "-" ++ padded 2 d.day

end Date

namespace DateTime

def isPossible (t : DateTime) : Bool :=
  t.date.isPossible && t.hour < 24 && t.minute < 60 && t.second < 60
    && t.microsecond < 1000000 && (match t.offset with
      | none => true
      | some o => o.natAbs < 86400)

/-- Microseconds since the start of the calendar, with the distance from universal time taken
off. -/
def instant (t : DateTime) : Int :=
  let seconds : Int := t.date.dayNumber * 86400 + t.hour * 3600 + t.minute * 60 + t.second
  (seconds - t.offset.getD 0) * 1000000 + t.microsecond

/-- Two local times are equal when all their parts are, two times with an offset when they are
the same instant. -/
def sameInstant (a b : DateTime) : Bool :=
  a.offset.isSome == b.offset.isSome && a.instant == b.instant

def offsetText (seconds : Int) : String :=
  let n := seconds.natAbs
  let rest := n % 60
  (if seconds < 0 then "-" else "+") ++ padded 2 (n / 3600) ++ ":" ++ padded 2 (n / 60 % 60)
    ++ (if rest = 0 then "" else ":" ++ padded 2 rest)

/-- Date and time with a separator between; microseconds are written only when there are any. -/
def textWith (separator : String) (t : DateTime) : String :=
  t.date.text ++ separator ++ padded 2 t.hour ++ ":" ++ padded 2 t.minute ++ ":"
    ++ padded 2 t.second
    ++ (if t.microsecond = 0 then "" else "." ++ padded 6 t.microsecond)
    ++ (match t.offset with
      | none => ""
      | some o => offsetText o)

end DateTime

end JsonSchema
