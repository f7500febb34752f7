import Launcher.Log.Level

/-!
# Lines of the log

A record of the log is written as one line of columns: the time in UTC, the level, the place in the
program, and the message.

## Main definitions

* `Launcher.CivilTime.ofEpoch` — the calendar date and time of a count of seconds.
* `Launcher.LogLine.render` — the line of a record.
-/

namespace Launcher

/-- A date of the Gregorian calendar with a time of day. -/
structure CivilTime where
  year : Int
  month : Nat
  day : Nat
  hour : Nat
  minute : Nat
  second : Nat
deriving DecidableEq, Repr

namespace CivilTime

/-- The days of four centuries, after which the calendar repeats. -/
def daysOfEra : Int := 146097

/-- The date and time that is `seconds` after the start of 1970, in UTC. Years are counted from the
first of March, so that the leap day is the last of its year. -/
def ofEpoch (seconds : Int) : CivilTime :=
  let time := (seconds % 86400).toNat
  let days := seconds / 86400 + 719468
  let dayOfEra := (days % daysOfEra).toNat
  let yearOfEra := (dayOfEra - dayOfEra / 1460 + dayOfEra / 36524 - dayOfEra / 146096) / 365
  let dayOfYear := dayOfEra - (365 * yearOfEra + yearOfEra / 4 - yearOfEra / 100)
  let marchMonth := (5 * dayOfYear + 2) / 153
  let month := if marchMonth < 10 then marchMonth + 3 else marchMonth - 9
  { year := days / daysOfEra * 400 + yearOfEra + (if month ≤ 2 then 1 else 0)
    month
    day := dayOfYear - (153 * marchMonth + 2) / 5 + 1
    hour := time / 3600
    minute := time / 60 % 60
    second := time % 60 }

/-- A number with at least two digits. -/
def twoDigits (n : Nat) : Text := (if n < 10 then lit "0" else []) ++ decimal n

/-- The date, day first, and the time of day. -/
def render (t : CivilTime) : Text :=
  twoDigits t.day ++ lit "." ++ twoDigits t.month ++ lit "." ++ decimal t.year ++ lit " " ++
    twoDigits t.hour ++ lit ":" ++ twoDigits t.minute ++ lit ":" ++ twoDigits t.second

/-- A leap day, and the second before the epoch. -/
example : ofEpoch 951782400 = ⟨2000, 2, 29, 0, 0, 0⟩ ∧
    ofEpoch (-1) = ⟨1969, 12, 31, 23, 59, 59⟩ := by
  decide

end CivilTime

/-- A record of the log with the place in the program from which it comes. -/
structure LogLine where
  level : Int
  fileName : Text
  lineNumber : Int
  message : Text
  /-- Seconds since the start of 1970. -/
  created : Int
deriving DecidableEq, Repr

namespace LogLine

/-- The text with spaces on both sides up to the width, the odd one on the right. -/
def centre (width : Nat) (t : Text) : Text :=
  let space := width - t.length
  List.replicate (space / 2) (.char ' ') ++ t ++ List.replicate (space - space / 2) (.char ' ')

/-- The text with spaces on the right up to the width. -/
def padRight (width : Nat) (t : Text) : Text :=
  t ++ List.replicate (width - t.length) (.char ' ')

/-- The line of a record. -/
def render (r : LogLine) : Text :=
  (CivilTime.ofEpoch r.created).render ++ lit " | " ++ centre 8 (Level.name r.level) ++ lit " | " ++
    centre 14 r.fileName ++ lit " " ++ padRight 4 (decimal r.lineNumber) ++ lit " | " ++ r.message

end LogLine

/-- What a log with this threshold writes for the records. -/
def writtenLog (threshold : Int) (records : List LogLine) : List Char :=
  (records.filter fun r => Level.isKept threshold r.level).flatMap fun r =>
    r.render.spelled ++ ['\n']

end Launcher
