import Isel.Toml.Number

/-!
# Dates and times

A date-time is a date (`1979-05-27`), perhaps followed by `T`, `t` or a space and a time
(`07:32:00`, perhaps with a fraction of a second), perhaps followed by an offset (`Z`, `z` or
`±hh:mm`); or a time alone. Months run from 01 to 12, days from 01 to the length of the month
in the Gregorian calendar (year 0 a leap year), hours from 00 to 23, minutes from 00 to 59,
seconds from 00 to 60.

A text that starts as neither a date nor a time is left to other readings. Once a date has
its year and dash, or a time its hour and colon, the rest must follow; a field out of range
fails where the field starts. A time after a date that does not get past its hour and colon
is not read, and neither is a point not followed by digits.
-/

namespace Isel.Toml

open Reader

def isLeapYear (y : Nat) : Bool := y % 4 == 0 && (y % 100 != 0 || y % 400 == 0)

def daysInMonth (y m : Nat) : Nat :=
  match m with
  | 2 => if isLeapYear y then 29 else 28
  | 4 | 6 | 9 | 11 => 30
  | _ => 31

def twoDigitsIn (lo hi : Nat) : Reader Nat :=
  convert false (takeBetween 2 2 isDecDigit) fun ds =>
    let n := decValue ds
    if lo ≤ n ∧ n ≤ hi then .ok n else .error .outOfRange

def fullDate : Reader Unit := do
  let year := decValue (← takeBetween 4 4 isDecDigit)
  char '-'
  let month ← commit (twoDigitsIn 1 12)
  commit (char '-')
  let dayStart ← get
  let day ← commit (twoDigitsIn 1 31)
  if daysInMonth year month < day then refuseAt dayStart .outOfRange

def partialTime : Reader Unit := do
  let _ ← twoDigitsIn 0 23
  char ':'
  commit do
    let _ ← twoDigitsIn 0 59
    char ':'
    let _ ← twoDigitsIn 0 60
    let _ ← optional (do char '.'; let _ ← takeWhile1 isDecDigit)

def timeOffset : Reader Unit :=
  label "time offset" (orElse (do let _ ← satisfy (fun c => c == 'Z' || c == 'z')) (do
    let _ ← satisfy isSign
    commit do
      let _ ← twoDigitsIn 0 23
      char ':'
      let _ ← twoDigitsIn 0 59))

def dateTime : Reader Unit :=
  orElse
    (label "date-time" do
      fullDate
      let _ ← optional (do
        let _ ← satisfy (fun c => c == 'T' || c == 't' || c == ' ')
        partialTime
        let _ ← optional timeOffset))
    (label "time" partialTime)

end Isel.Toml
