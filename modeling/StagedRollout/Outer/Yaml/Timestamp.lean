/-
Points in time: a date, perhaps with a time of day and the offset of its zone.
-/
import StagedRollout.Fault
import StagedRollout.Text.Numeral

namespace StagedRollout.Yaml

/-- A time of day. The offset of the zone is in minutes. -/
structure TimeOfDay where
  hour : Nat
  minute : Nat
  second : Nat
  microsecond : Nat
  offset : Option Int

structure Timestamp where
  year : Nat
  month : Nat
  day : Nat
  time : Option TimeOfDay

namespace Timestamp

/-! ## Reading -/

/-- A number of at least `least` and at most `most` digits, and what follows it. -/
def digits? (least most : Nat) (cs : List Char) : Option (Nat × List Char) :=
  let run := (cs.take most).takeWhile Char.isDigit
  if least ≤ run.length then some (Text.digitsValue 10 run, cs.drop run.length) else none

/-- A character that must come next. -/
def after? (c : Char) : List Char → Option (List Char)
  | d :: rest => if d = c then some rest else none
  | [] => none

def isBlankChar (c : Char) : Bool := c = ' ' || c = '\t'

/-- The millionths of a second that a fraction stands for; further digits are dropped. -/
def microseconds (fraction : List Char) : Nat :=
  let first := fraction.take 6
  Text.digitsValue 10 (first ++ List.replicate (6 - first.length) '0')

/-- The fraction of a second, if there is a point. -/
def fraction (cs : List Char) : Nat × List Char :=
  match cs with
  | '.' :: rest => (microseconds (rest.takeWhile Char.isDigit), rest.dropWhile Char.isDigit)
  | cs => (0, cs)

/-- The minutes of an offset, if there are some, at the end of the text. -/
def offsetMinutes? (cs : List Char) : Option Nat :=
  match cs with
  | [] => some 0
  | cs => do
    let (n, rest) ← digits? 2 2 (← after? ':' cs)
    if rest.isEmpty then some n else none

/-- The zone at the end of the text: none, the one without an offset, or a signed offset. -/
def zone? (cs : List Char) : Option (Option Int) :=
  match cs.dropWhile isBlankChar with
  | [] => if cs.isEmpty then some none else none
  | ['Z'] => some (some 0)
  | sign :: rest =>
    if sign = '+' || sign = '-' then do
      let (hours, rest) ← digits? 1 2 rest
      let minutes ← offsetMinutes? rest
      let total : Int := hours * 60 + minutes
      some (some (if sign = '-' then -total else total))
    else none

def time? (cs : List Char) : Option TimeOfDay := do
  let (hour, cs) ← digits? 1 2 cs
  let (minute, cs) ← digits? 2 2 (← after? ':' cs)
  let (second, cs) ← digits? 2 2 (← after? ':' cs)
  let (microsecond, cs) := fraction cs
  let offset ← zone? cs
  return ⟨hour, minute, second, microsecond, offset⟩

/-- The time after a date: nothing, or a time after a `T` or blanks. -/
def timeAfterDate? (cs : List Char) : Option (Option TimeOfDay) :=
  match cs with
  | [] => some none
  | c :: rest =>
    if c = 'T' || c = 't' then some <$> time? rest
    else if isBlankChar c then some <$> time? (rest.dropWhile isBlankChar)
    else none

/-- The point in time that a text spells. -/
def ofText? (s : String) : Option Timestamp := do
  let (year, cs) ← digits? 4 4 s.toList
  let (month, cs) ← digits? 1 2 (← after? '-' cs)
  let (day, cs) ← digits? 1 2 (← after? '-' cs)
  let time ← timeAfterDate? cs
  return ⟨year, month, day, time⟩

/-- Whether a text is a point in time by its form alone: with a time, or a date of full width. -/
def isStrict (s : String) : Bool :=
  match ofText? s with
  | some t => t.time.isSome || s.length = 10
  | none => false

/-! ## Checking -/

def isLeap (year : Nat) : Bool := year % 4 = 0 && (year % 100 ≠ 0 || year % 400 = 0)

def daysIn (year month : Nat) : Nat :=
  if month = 2 then (if isLeap year then 29 else 28)
  else if [4, 6, 9, 11].contains month then 30
  else 31

/-- An offset as days and seconds. -/
def offsetText (minutes : Int) : String :=
  let seconds := minutes * 60
  let days := seconds / 86400
  let rest := seconds % 86400
  let parts := (if days = 0 then [] else ["days=" ++ toString days]) ++
    (if rest = 0 then [] else ["seconds=" ++ toString rest])
  "datetime.timedelta(" ++ String.intercalate ", " parts ++ ")"

/-- What is wrong with the offset of a zone: it must be less than a day. -/
def offsetProblem? (t : TimeOfDay) : Option String :=
  match t.offset with
  | some minutes =>
    if minutes.natAbs < 1440 then none
    else some ("offset must be a timedelta strictly between -timedelta(hours=24) and " ++
      "timedelta(hours=24), not " ++ offsetText minutes ++ ".")
  | none => none

def timeProblem? (t : TimeOfDay) : Option String :=
  if 24 ≤ t.hour then some "hour must be in 0..23"
  else if 60 ≤ t.minute then some "minute must be in 0..59"
  else if 60 ≤ t.second then some "second must be in 0..59"
  else none

/-- What is wrong with a point in time, the offset of its zone first. -/
def problem? (t : Timestamp) : Option String :=
  match t.time.bind offsetProblem? with
  | some p => some p
  | none =>
    if t.year = 0 then some "year 0 is out of range"
    else if t.month = 0 || 12 < t.month then some "month must be in 1..12"
    else if t.day = 0 || daysIn t.year t.month < t.day then some "day is out of range for month"
    else t.time.bind timeProblem?

/-- The parts of a point in time as a value. -/
def toValue (t : Timestamp) : Value :=
  .list ([.int t.year, .int t.month, .int t.day] ++
    match t.time with
    | some time => [.int time.hour, .int time.minute, .int time.second, .int time.microsecond,
        (time.offset.map Value.int).getD .null]
    | none => [])

/-- The value of a text as a point in time. -/
def read (s : String) : Except Fault Value :=
  match ofText? s with
  | none => .error .noMembers
  | some t =>
    match t.problem? with
    | some p => .error (.breach (.stated p))
    | none => .ok t.toValue

end Timestamp

end StagedRollout.Yaml
