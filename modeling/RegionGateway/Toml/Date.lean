import RegionGateway.Text.Blank

/-!
# Dates in TOML

Whether a run of characters is a day, a time of day or both, as a predicate on its characters.
-/

namespace RegionGateway.Toml.Date

/-- The number that digits write. -/
def value (digits : List Char) : Nat := digits.foldl (fun n c => n * 10 + (c.toNat - '0'.toNat)) 0

/-- A number of so many digits, not above a bound. -/
def isField (width bound : Nat) (cs : List Char) : Bool :=
  cs.length == width && cs.all Char.isDigit && value cs ≤ bound

/-- The days of a month. -/
def daysIn (year month : Nat) : Nat :=
  let leap := year % 4 == 0 && (year % 100 != 0 || year % 400 == 0)
  if month == 2 then (if leap then 29 else 28)
  else if month == 4 || month == 6 || month == 9 || month == 11 then 30
  else 31

/-- A day. -/
def isDay (cs : List Char) : Bool :=
  match Text.splitChars (· == '-') cs with
  | [year, month, day] =>
    isField 4 9999 year && isField 2 12 month && 1 ≤ value month &&
      isField 2 (daysIn (value year) (value month)) day && 1 ≤ value day
  | _ => false

/-- Seconds, with or without a fraction. -/
def isSeconds (cs : List Char) : Bool :=
  match Text.splitChars (· == '.') cs with
  | [seconds] => isField 2 60 seconds
  | [seconds, fraction] => isField 2 60 seconds && !fraction.isEmpty && fraction.all Char.isDigit
  | _ => false

/-- A time of day; the seconds may be left out. -/
def isTime (cs : List Char) : Bool :=
  match Text.splitChars (· == ':') cs with
  | [hour, minute] => isField 2 23 hour && isField 2 59 minute
  | [hour, minute, seconds] => isField 2 23 hour && isField 2 59 minute && isSeconds seconds
  | _ => false

/-- A distance from universal time. -/
def isOffset (cs : List Char) : Bool :=
  match Text.splitChars (· == ':') cs with
  | [hour, minute] => isField 2 23 hour && isField 2 59 minute
  | _ => false

/-- A time of day with or without distance from universal time. -/
def isZonedTime (cs : List Char) : Bool :=
  match cs.getLast? with
  | some 'Z' => isTime cs.dropLast
  | some 'z' => isTime cs.dropLast
  | _ =>
    match Text.splitChars (fun c => c == '+' || c == '-') cs with
    | [time] => isTime time
    | [time, offset] => isTime time && isOffset offset
    | _ => false

/-- A day, a time, or both with a mark or a blank between them. -/
def isDate (cs : List Char) : Bool :=
  isTime cs || isDay cs ||
    (isDay (cs.take 10) && ['T', 't', ' '].contains ((cs.drop 10).head?.getD '-') &&
      isZonedTime (cs.drop 11))

end RegionGateway.Toml.Date
