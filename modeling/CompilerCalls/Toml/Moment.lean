import CompilerCalls.Text.Split

/-!
# Dates and times

The days of the calendar and the times of a day, as settings documents give
them and as messages show them.
-/

namespace CompilerCalls.Toml

def isLeapYear (year : Nat) : Bool :=
  year % 4 = 0 && (year % 100 != 0 || year % 400 = 0)

def monthDays (year month : Nat) : Nat :=
  if month = 2 then if isLeapYear year then 29 else 28
  else if month ∈ [4, 6, 9, 11] then 30
  else 31

/-- A day of the calendar. -/
structure Date where
  year : Nat
  month : Nat
  day : Nat
  year_pos : 0 < year
  month_mem : 1 ≤ month ∧ month ≤ 12
  day_mem : 1 ≤ day ∧ day ≤ monthDays year month

/-- A time of a day. -/
structure Time where
  hour : Fin 24
  minute : Fin 60
  second : Fin 60
  micro : Fin 1000000 := 0

/-- How far a clock is ahead of the common time, or behind it. -/
structure Offset where
  isBehind : Bool
  hours : Fin 24
  minutes : Fin 60

inductive Moment where
  | date (day : Date)
  | time (clock : Time)
  /-- A time on a day.  Without an offset it is meant wherever one is. -/
  | both (day : Date) (clock : Time) (offset? : Option Offset)

/-! ## Texts -/

def Date.numbers (date : Date) : List Nat := [date.year, date.month, date.day]

/-- The numbers of a time, without zeros behind the minutes. -/
def Time.numbers (time : Time) : List Nat :=
  [time.hour.val, time.minute.val] ++
    if time.micro ≠ 0 then [time.second.val, time.micro.val]
    else if time.second ≠ 0 then [time.second.val]
    else []

def Offset.seconds (offset : Offset) : Nat :=
  3600 * offset.hours.val + 60 * offset.minutes.val

/-- The text of an offset.  One behind the common time is a day less what is
left of it. -/
def Offset.written (offset : Offset) : String :=
  if offset.seconds = 0 then "datetime.timezone.utc"
  else
    let span :=
      if offset.isBehind then "days=-1, seconds=" ++ (86400 - offset.seconds).repr
      else "seconds=" ++ offset.seconds.repr
    "datetime.timezone(datetime.timedelta(" ++ span ++ "))"

namespace Moment

def writtenAs (kind : String) (numbers : List Nat) (further : List String) :
    String :=
  "datetime." ++ kind ++ "(" ++
    Text.join ", " (numbers.map Nat.repr ++ further) ++ ")"

/-- The text in which messages show a date or a time. -/
def written : Moment → String
  | .date day => writtenAs "date" day.numbers []
  | .time clock => writtenAs "time" clock.numbers []
  | .both day clock offset? =>
      writtenAs "datetime" (day.numbers ++ clock.numbers)
        (offset?.map fun offset => "tzinfo=" ++ offset.written).toList

/-- How many texts of other values its text holds one inside the other. -/
def nesting : Moment → Nat
  | .both _ _ (some offset) => if offset.seconds = 0 then 1 else 2
  | _ => 0

end Moment

/-! ## Reading -/

def digitValue (digit : Char) : Nat := digit.toNat - '0'.toNat

/-- A number of two digits which is less than the bound. -/
def twoDigits? (bound : Nat) : List Char → Option (Fin bound × List Char)
  | tens :: ones :: rest =>
      let value := 10 * digitValue tens + digitValue ones
      if small : tens.isDigit ∧ ones.isDigit ∧ value < bound then
        some (⟨value, small.2.2⟩, rest)
      else none
  | _ => none

/-- What follows a character, if it stands here. -/
def behind? (expected : Char) : List Char → Option (List Char)
  | [] => none
  | character :: rest => if character = expected then some rest else none

/-- The part of a second behind the point, of which six digits count. -/
def micros (text : List Char) : Fin 1000000 × List Char :=
  match text with
  | '.' :: rest =>
      match rest.takeWhile Char.isDigit with
      | [] => (⟨0, by decide⟩, text)
      | digits =>
          let counted := (digits ++ List.replicate 6 '0').take 6
          let value := counted.foldl (fun value digit =>
            10 * value + digitValue digit) 0
          (⟨value % 1000000, Nat.mod_lt _ (by decide)⟩,
            rest.dropWhile Char.isDigit)
  | _ => (⟨0, by decide⟩, text)

def time? (text : List Char) : Option (Time × List Char) := do
  let (hour, rest) ← twoDigits? 24 text
  let (minute, rest) ← behind? ':' rest >>= twoDigits? 60
  let (second, rest) ← behind? ':' rest >>= twoDigits? 60
  let (micro, rest) := micros rest
  return ({ hour, minute, second, micro }, rest)

def signedOffset? (isBehind : Bool) (text : List Char) :
    Option (Offset × List Char) := do
  let (hours, rest) ← twoDigits? 24 text
  let (minutes, rest) ← behind? ':' rest >>= twoDigits? 60
  return ({ isBehind, hours, minutes }, rest)

/-- An offset, if one stands here. -/
def offset? (text : List Char) : Option Offset × List Char :=
  let read? :=
    match text with
    | 'Z' :: rest | 'z' :: rest => some (⟨false, 0, 0⟩, rest)
    | '+' :: rest => signedOffset? false rest
    | '-' :: rest => signedOffset? true rest
    | _ => none
  match read? with
  | some (offset, rest) => (some offset, rest)
  | none => (none, text)

/-- A time behind a date, if one stands here. -/
def timeOfDate? : List Char → Option (Time × List Char)
  | 'T' :: rest | 't' :: rest | ' ' :: rest => time? rest
  | _ => none

/-- Year, month and day, which may be missing in the calendar. -/
def dayNumbers? (text : List Char) : Option ((Nat × Nat × Nat) × List Char) := do
  let (century, rest) ← twoDigits? 100 text
  let (year, rest) ← twoDigits? 100 rest
  let (month, rest) ← behind? '-' rest >>= twoDigits? 13
  let (day, rest) ← behind? '-' rest >>= twoDigits? 32
  return ((100 * century.val + year.val, month.val, day.val), rest)

/-- A day of the calendar, if there is such a one. -/
def Date.ofNumbers? : Nat × Nat × Nat → Option Date
  | (year, month, day) =>
      if isDay : 0 < year ∧ (1 ≤ month ∧ month ≤ 12) ∧
          (1 ≤ day ∧ day ≤ monthDays year month) then
        some ⟨year, month, day, isDay.1, isDay.2.1, isDay.2.2⟩
      else none

/-- The date or time which stands here.  A day which is missing in the calendar
leaves none. -/
def moment? (text : List Char) : Option (Option Moment × List Char) :=
  match dayNumbers? text with
  | none => (time? text).map fun (time, rest) => (some (.time time), rest)
  | some (numbers, rest) =>
      let date? := Date.ofNumbers? numbers
      match timeOfDate? rest with
      | none => some (date?.map .date, rest)
      | some (time, rest) =>
          let (offset?, rest) := offset? rest
          some (date?.map fun date => .both date time offset?, rest)

end CompilerCalls.Toml
