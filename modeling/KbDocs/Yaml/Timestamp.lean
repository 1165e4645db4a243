/-
Dates and moments: a day of the calendar, and with it a time of day,
which may name its distance from universal time.
-/
import KbDocs.Text.Cut

namespace KbDocs.Yaml

/-- A time of day. -/
structure TimeOfDay where
  hour : Nat
  minute : Nat
  second : Nat
  microsecond : Nat
  /-- Minutes ahead of universal time, if that is known. -/
  offset : Option Int
deriving DecidableEq

/-- A day, or a moment on it. -/
structure Timestamp where
  year : Nat
  month : Nat
  day : Nat
  time : Option TimeOfDay
deriving DecidableEq

-- ============================================================= reading

/-- A number of decimal digits, as many as there are up to a limit. -/
def digits? (least most : Nat) (s : List Char) : Option (Nat × List Char) :=
  let found := (s.take most).takeWhile Char.isDigit
  if found.length < least then none
  else
    some (found.foldl (fun n c => n * 10 + (c.toNat - 48)) 0, s.drop found.length)

/-- The rest of a text behind a character that must open it. -/
def expect? (c : Char) : List Char → Option (List Char)
  | [] => none
  | d :: r => if d = c then some r else none

/-- The microseconds behind the point of a second: six digits count, and
missing ones are zero. -/
def microseconds (digits : List Char) : Nat :=
  (digits.take 6 ++ List.replicate (6 - digits.length) '0').foldl
    (fun n c => n * 10 + (c.toNat - 48)) 0

/-- The distance from universal time at the end of a moment, if one
stands there. -/
def zone? (s : List Char) : Option (Option Int) := do
  match s.dropWhile fun c => c == ' ' || c == '\t' with
  | ['Z'] => return some 0
  | sign :: r =>
      if sign != '+' && sign != '-' then failure
      let (hours, r) ← digits? 1 2 r
      let (minutes, r) ← match r with
        | [] => pure (0, [])
        | c :: r => if c == ':' then digits? 2 2 r else none
      if !r.isEmpty then failure
      let ahead : Int := hours * 60 + minutes
      return some (if sign == '-' then -ahead else ahead)
  | [] => if s.isEmpty then return none else none

/-- A time of day that takes up the whole text. -/
def timeOfDay? (s : List Char) : Option TimeOfDay := do
  let (hour, s) ← digits? 1 2 s
  let (minute, s) ← digits? 2 2 (← expect? ':' s)
  let (second, s) ← digits? 2 2 (← expect? ':' s)
  let (fraction, s) := match s with
    | '.' :: r => (r.takeWhile Char.isDigit, r.dropWhile Char.isDigit)
    | _ => ([], s)
  return ⟨hour, minute, second, microseconds fraction, ← zone? s⟩

/-- The time of day behind a date, which a letter or blanks divide from
it. -/
def timeBehind? : List Char → Option TimeOfDay
  | [] => none
  | c :: r =>
      if c == 'T' || c == 't' then timeOfDay? r
      else if c == ' ' || c == '\t' then
        timeOfDay? (r.dropWhile fun c => c == ' ' || c == '\t')
      else none

/-- The fields of a date or a moment, not yet checked against the
calendar. Month and day have at least a number of digits in a date
alone, and one in a moment. -/
def Timestamp.fields? (least : Nat) (s : List Char) : Option Timestamp := do
  let (year, s) ← digits? 4 4 s
  let afterYear ← expect? '-' s
  let (month, s) ← digits? 1 2 afterYear
  let afterMonth ← expect? '-' s
  let (day, s) ← digits? 1 2 afterMonth
  if s.isEmpty then
    let _ ← digits? least 2 afterYear
    let _ ← digits? least 2 afterMonth
    return ⟨year, month, day, none⟩
  else return ⟨year, month, day, some (← timeBehind? s)⟩

/-- The days of a month. -/
def daysInMonth (year month : Nat) : Nat :=
  if month == 2 then
    if year % 4 == 0 && (year % 100 != 0 || year % 400 == 0) then 29 else 28
  else if month == 4 || month == 6 || month == 9 || month == 11 then 30
  else 31

/-- Whether the calendar and the clock have such a moment. -/
def Timestamp.isValid (t : Timestamp) : Bool :=
  1 ≤ t.year && 1 ≤ t.month && t.month ≤ 12
    && 1 ≤ t.day && t.day ≤ daysInMonth t.year t.month
    && t.time.all fun o =>
      o.hour < 24 && o.minute < 60 && o.second < 60
        && o.offset.all fun m => m.natAbs < 24 * 60

-- =========================================================== comparing

/-- The days from the first day of the calendar to a day. -/
def Timestamp.dayNumber (t : Timestamp) : Nat :=
  let years := t.year - 1
  let months := (List.range (t.month - 1)).map fun m => daysInMonth t.year (m + 1)
  years * 365 + years / 4 - years / 100 + years / 400 + months.foldl (· + ·) 0 + t.day

/-- The microseconds from the first day of the calendar to a moment, in
universal time if its distance from that is known. -/
def Timestamp.elapsed (t : Timestamp) (o : TimeOfDay) : Int :=
  let minutes : Int := (t.dayNumber * 24 + o.hour) * 60 + o.minute - o.offset.getD 0
  (minutes * 60 + o.second) * 1000000 + o.microsecond

/-- Whether two dates, or two moments, are the same. A moment whose distance
from universal time is known is the same under every such distance, and no
other is the same as it. -/
def Timestamp.sameMoment (s t : Timestamp) : Bool :=
  match s.time, t.time with
  | none, none => s == t
  | some o, some p => o.offset.isSome == p.offset.isSome && s.elapsed o == t.elapsed p
  | _, _ => false

-- ============================================================= writing

/-- A number padded with zeros to a width. -/
def padded (width n : Nat) : String :=
  let digits := Nat.toDigits 10 n
  String.ofList (List.replicate (width - digits.length) '0' ++ digits)

/-- A distance from universal time, as a sign, hours and minutes. -/
def offsetText (minutes : Int) : String :=
  (if minutes < 0 then "-" else "+") ++ padded 2 (minutes.natAbs / 60)
    ++ ":" ++ padded 2 (minutes.natAbs % 60)

/-- A date or a moment as text. -/
def Timestamp.text (t : Timestamp) : String :=
  let date := padded 4 t.year ++ "-" ++ padded 2 t.month ++ "-" ++ padded 2 t.day
  match t.time with
  | none => date
  | some o =>
      date ++ " " ++ padded 2 o.hour ++ ":" ++ padded 2 o.minute ++ ":"
        ++ padded 2 o.second
        ++ (if o.microsecond == 0 then "" else "." ++ padded 6 o.microsecond)
        ++ (o.offset.map offsetText).getD ""

/-- A distance from universal time, spelled out as a part of a moment
inside a collection. Distances behind it count from the day before. -/
def offsetSpelled (minutes : Int) : String :=
  if minutes == 0 then "datetime.timezone.utc"
  else
    let span :=
      if minutes < 0 then
        "days=-1, seconds=" ++ toString (86400 + minutes * 60)
      else "seconds=" ++ toString (minutes * 60)
    "datetime.timezone(datetime.timedelta(" ++ span ++ "))"

/-- A date or a moment inside a collection, with its fields spelled out.
Seconds that are zero are left out, as far as nothing follows them. -/
def Timestamp.spelled (t : Timestamp) : String :=
  let date := [t.year, t.month, t.day]
  match t.time with
  | none =>
      "datetime.date(" ++ Text.joinStrings ", " (date.map Nat.repr) ++ ")"
  | some o =>
      let fine :=
        if o.microsecond != 0 then [o.second, o.microsecond]
        else if o.second != 0 then [o.second] else []
      let fields := (date ++ [o.hour, o.minute] ++ fine).map Nat.repr
      let zone := (o.offset.map fun m => ["tzinfo=" ++ offsetSpelled m]).getD []
      "datetime.datetime(" ++ Text.joinStrings ", " (fields ++ zone) ++ ")"

end KbDocs.Yaml
