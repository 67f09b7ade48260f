import TraitIndex.Text.Digit

/-!
Dates and points in time, as documents written in YAML may hold them.

The calendar is the Gregorian one, taken to reach back to the year 1.  A point
in time may carry its distance from universal time in seconds.
-/

namespace TraitIndex

structure Date where
  year : Nat
  month : Nat
  day : Nat
  deriving DecidableEq, Repr, Inhabited

structure Timestamp where
  date : Date
  hour : Nat
  minute : Nat
  second : Nat
  microsecond : Nat
  offset : Option Int
  deriving DecidableEq, Repr, Inhabited

inductive CalendarFault where
  | year (year : Nat)
  | month
  | day
  | hour
  | minute
  | second
  | offset (seconds : Int)
  deriving DecidableEq, Repr

def isLeapYear (year : Nat) : Bool :=
  year % 4 = 0 && (year % 100 != 0 || year % 400 = 0)

def daysInMonth (year month : Nat) : Nat :=
  if month = 2 then if isLeapYear year then 29 else 28
  else if month = 4 || month = 6 || month = 9 || month = 11 then 30
  else 31

def Date.make (year month day : Nat) : Except CalendarFault Date :=
  if year < 1 || 9999 < year then .error (.year year)
  else if month < 1 || 12 < month then .error .month
  else if day < 1 || daysInMonth year month < day then .error .day
  else .ok ⟨year, month, day⟩

def secondsInDay : Nat := 86400

def checkedOffset (seconds : Int) : Except CalendarFault Int :=
  if -(secondsInDay : Int) < seconds && seconds < secondsInDay then .ok seconds
  else .error (.offset seconds)

def Timestamp.make (year month day hour minute second microsecond : Nat)
    (offset : Option Int) :
    Except CalendarFault Timestamp := do
  let offset ← match offset with
    | none => .ok none
    | some seconds => (checkedOffset seconds).map some
  let date ← Date.make year month day
  if 23 < hour then .error .hour
  else if 59 < minute then .error .minute
  else if 59 < second then .error .second
  else .ok ⟨date, hour, minute, second, microsecond, offset⟩

/-! ## Order in time -/

def Date.dayNumber (date : Date) : Nat :=
  let past := date.year - 1
  let months := (List.range (date.month - 1)).map fun index =>
    daysInMonth date.year (index + 1)
  past * 365 + past / 4 - past / 100 + past / 400 + months.foldr
    (· + ·) 0 + date.day

/-- Microseconds since the start of the calendar, by the clock of the timestamp
itself. -/
def Timestamp.localInstant (time : Timestamp) : Int :=
  let seconds : Int := (time.date.dayNumber * secondsInDay : Nat)
    + (time.hour * 3600 + time.minute * 60 + time.second : Nat)
  seconds * 1000000 + time.microsecond

/-- Two points in time with offsets are compared by universal time; one with an
offset never equals one without. -/
def Timestamp.same (a b : Timestamp) : Bool :=
  match a.offset, b.offset with
  | none, none => a.localInstant == b.localInstant
  | some x, some y =>
      a.localInstant - x * 1000000 == b.localInstant - y * 1000000
  | _, _ => false

/-! ## Text -/

def Date.toText (date : Date) : String :=
  String.ofList (Text.paddedDigits 4 date.year ++ '-' ::
    Text.paddedDigits 2 date.month
    ++ '-' :: Text.paddedDigits 2 date.day)

def offsetText (seconds : Int) : String :=
  let sign := if seconds < 0 then '-' else '+'
  String.ofList (sign :: Text.paddedDigits 2 (seconds.natAbs / 3600)
    ++ ':' :: Text.paddedDigits 2 (seconds.natAbs / 60 % 60))

def Timestamp.toText (time : Timestamp) : String :=
  let clock := String.ofList
    (Text.paddedDigits 2 time.hour ++ ':' :: Text.paddedDigits 2 time.minute
    ++ ':' :: Text.paddedDigits 2 time.second)
  let fraction :=
    if time.microsecond = 0 then ""
    else String.ofList ('.' :: Text.paddedDigits 6 time.microsecond)
  time.date.toText ++ " " ++ clock ++ fraction ++
    (time.offset.map offsetText).getD ""

/-- A span of time as its days and the seconds of the last, unfinished day. -/
def spanText (seconds : Int) : String :=
  let days := seconds / (secondsInDay : Int)
  let rest := seconds % (secondsInDay : Int)
  let parts :=
    (if days = 0 then [] else ["days=" ++ toString days])
      ++ (if rest = 0 then [] else ["seconds=" ++ toString rest])
  "datetime.timedelta(" ++
    (if parts.isEmpty then "0" else ", ".intercalate parts) ++ ")"

def Date.toQuoted (date : Date) : String :=
  "datetime.date(" ++ toString date.year ++ ", " ++ toString date.month ++ ", "
    ++ toString date.day ++ ")"

def offsetQuoted (seconds : Int) : String :=
  if seconds = 0 then "datetime.timezone.utc"
  else "datetime.timezone(" ++ spanText seconds ++ ")"

def Timestamp.toQuoted (time : Timestamp) : String :=
  let always :=
    [time.date.year, time.date.month, time.date.day, time.hour, time.minute]
  let numbers :=
    if time.microsecond != 0 then always ++ [time.second, time.microsecond]
    else if time.second != 0 then always ++ [time.second]
    else always
  let zone := match time.offset with
    | none => []
    | some seconds => ["tzinfo=" ++ offsetQuoted seconds]
  "datetime.datetime(" ++ ", ".intercalate (numbers.map toString ++ zone) ++ ")"

def CalendarFault.wording : CalendarFault → String
  | .year number => "year " ++ toString number ++ " is out of range"
  | .month => "month must be in 1..12"
  | .day => "day is out of range for month"
  | .hour => "hour must be in 0..23"
  | .minute => "minute must be in 0..59"
  | .second => "second must be in 0..59"
  | .offset seconds =>
      "offset must be a timedelta strictly between -timedelta(hours=24) and "
        ++ "timedelta(hours=24), not " ++ spanText seconds ++ "."

end TraitIndex
