/-!
Dates, times of day and moments in time as they stand in configuration files: their limits, their
text and their display.
-/

namespace BundleForge

/-- A day of the calendar. -/
structure Date where
  year : Nat
  month : Nat
  day : Nat
deriving DecidableEq, Repr

/-- A time of day. -/
structure Clock where
  hour : Nat
  minute : Nat
  second : Nat
  micro : Nat
deriving DecidableEq, Repr

/-- A time on a day, at an offset from universal time in minutes where one is given. -/
structure Moment where
  date : Date
  clock : Clock
  offset : Option Int
deriving DecidableEq, Repr

/-- Why numbers are no date or time. -/
inductive MomentFault
  | year (n : Nat)
  | month
  | day
  | hour
  | minute
  | second
  | offset (minutes : Int)
deriving DecidableEq, Repr

/-- A number with zeros in front up to a width. -/
def zeroPadded (width n : Nat) : String :=
  let digits := toString n
  String.ofList (List.replicate (width - digits.length) '0') ++ digits

/-- A span of minutes, displayed as whole days and the seconds left over. -/
def displaySpan (minutes : Int) : String :=
  let days := Int.fdiv minutes 1440
  let seconds := (minutes - days * 1440) * 60
  let parts :=
    (if days = 0 then [] else ["days=" ++ toString days]) ++
      (if seconds = 0 then [] else ["seconds=" ++ toString seconds])
  "datetime.timedelta(" ++ (if parts.isEmpty then "0" else ", ".intercalate parts) ++ ")"

def MomentFault.message : MomentFault → String
  | .year n => "year " ++ toString n ++ " is out of range"
  | .month => "month must be in 1..12"
  | .day => "day is out of range for month"
  | .hour => "hour must be in 0..23"
  | .minute => "minute must be in 0..59"
  | .second => "second must be in 0..59"
  | .offset minutes =>
    "offset must be a timedelta strictly between -timedelta(hours=24) and timedelta(hours=24), not "
      ++ displaySpan minutes ++ "."

def isLeapYear (year : Nat) : Bool := year % 4 = 0 && (year % 100 ≠ 0 || year % 400 = 0)

def daysInMonth (year month : Nat) : Nat :=
  if month = 2 then if isLeapYear year then 29 else 28
  else if month = 4 || month = 6 || month = 9 || month = 11 then 30 else 31

/-- The day that three numbers name. -/
def Date.make (year month day : Nat) : Except MomentFault Date :=
  if year < 1 || 9999 < year then .error (.year year)
  else if month < 1 || 12 < month then .error .month
  else if day < 1 || daysInMonth year month < day then .error .day
  else .ok ⟨year, month, day⟩

def Clock.make (hour minute second micro : Nat) : Except MomentFault Clock :=
  if 23 < hour then .error .hour
  else if 59 < minute then .error .minute
  else if 59 < second then .error .second
  else .ok ⟨hour, minute, second, micro⟩

/-- The days of a year before a month. -/
def daysBefore (year : Nat) : Nat → Nat
  | 0 | 1 => 0
  | month + 1 => daysBefore year month + daysInMonth year month

/-- The number of a day, counted from the first day of the first year. -/
def Date.number (d : Date) : Nat :=
  let years := d.year - 1
  years * 365 + years / 4 - years / 100 + years / 400 + daysBefore d.year d.month + d.day - 1

/-- Microseconds since midnight. -/
def Clock.micros (t : Clock) : Nat := ((t.hour * 60 + t.minute) * 60 + t.second) * 1000000 + t.micro

/-- Microseconds since the first midnight of all, in universal time where an offset is given. -/
def Moment.instant (m : Moment) : Int :=
  (m.date.number * 86400000000 + m.clock.micros : Nat) - m.offset.getD 0 * 60000000

/-- Whether two moments are one; with an offset it counts what they are in universal time. -/
def Moment.same (a b : Moment) : Bool :=
  a.offset.isSome = b.offset.isSome && a.instant = b.instant

/-- An offset stays below a day in either direction. -/
def checkOffset (minutes : Int) : Except MomentFault Int :=
  if 1440 ≤ minutes.natAbs then .error (.offset minutes) else .ok minutes

def Date.text (d : Date) : String :=
  zeroPadded 4 d.year ++ "-" ++ zeroPadded 2 d.month ++ "-" ++ zeroPadded 2 d.day

def Clock.text (t : Clock) : String :=
  zeroPadded 2 t.hour ++ ":" ++ zeroPadded 2 t.minute ++ ":" ++ zeroPadded 2 t.second ++
    (if t.micro = 0 then "" else "." ++ zeroPadded 6 t.micro)

def offsetText (minutes : Int) : String :=
  let n := minutes.natAbs
  (if minutes < 0 then "-" else "+") ++ zeroPadded 2 (n / 60) ++ ":" ++ zeroPadded 2 (n % 60)

def Moment.text (m : Moment) : String :=
  m.date.text ++ " " ++ m.clock.text ++ (m.offset.map offsetText).getD ""

/-- The numbers of a time; seconds and what is finer are left out when they are zero. -/
def Clock.numbers (t : Clock) : List Nat :=
  if t.micro ≠ 0 then [t.hour, t.minute, t.second, t.micro]
  else if t.second ≠ 0 then [t.hour, t.minute, t.second]
  else [t.hour, t.minute]

def Date.display (d : Date) : String :=
  "datetime.date(" ++ ", ".intercalate ([d.year, d.month, d.day].map toString) ++ ")"

def Clock.display (t : Clock) : String :=
  "datetime.time(" ++ ", ".intercalate (t.numbers.map toString) ++ ")"

def displayOffset (minutes : Int) : String :=
  if minutes = 0 then "datetime.timezone.utc" else "datetime.timezone(" ++ displaySpan minutes ++ ")"

def Moment.display (m : Moment) : String :=
  let numbers := ([m.date.year, m.date.month, m.date.day] ++ m.clock.numbers).map toString
  let zone := (m.offset.map fun minutes => ["tzinfo=" ++ displayOffset minutes]).getD []
  "datetime.datetime(" ++ ", ".intercalate (numbers ++ zone) ++ ")"

theorem same_refl (m : Moment) : m.same m = true := by simp [Moment.same]

theorem daysInMonth_february (year : Nat) :
    daysInMonth year 2 = if isLeapYear year then 29 else 28 := rfl

end BundleForge
