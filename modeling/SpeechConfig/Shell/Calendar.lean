/-
# Dates

The date and time of day of a number of seconds, and how a format shows them.
-/
import SpeechConfig.Shell.Floating

namespace SpeechConfig.Shell

structure Moment where
  seconds : Int
  year : Int
  month : Nat
  day : Nat
  hour : Nat
  minute : Nat
  second : Nat
  weekday : Nat
  yearDay : Nat
deriving DecidableEq, Repr

namespace Moment

/-- The names of the days of a week, from Sunday on. -/
def weekdays : List String :=
  ["Sunday", "Monday", "Tuesday", "Wednesday", "Thursday", "Friday", "Saturday"]

def months : List String :=
  ["January", "February", "March", "April", "May", "June", "July", "August", "September",
    "October", "November", "December"]

/-- The number of the day, counted from the first day of 1970. -/
def dayNumber (year : Int) (month day : Nat) : Int :=
  let y := if month ≤ 2 then year - 1 else year
  let era := y.fdiv 400
  let ofEra := y - era * 400
  let shifted : Nat := if month > 2 then month - 3 else month + 9
  let ofYear : Int := ((153 * shifted + 2) / 5 + day : Nat) - 1
  era * 146097 + (ofEra * 365 + ofEra.fdiv 4 - ofEra.fdiv 100 + ofYear) - 719468

/-- The moment a number of seconds after 1970 began. -/
def ofSeconds (seconds : Int) : Moment :=
  let days := seconds.fdiv 86400
  let rest := (seconds.fmod 86400).toNat
  let z := days + 719468
  let era := z.fdiv 146097
  let ofEra := (z - era * 146097).toNat
  let y := (ofEra - ofEra / 1460 + ofEra / 36524 - ofEra / 146096) / 365
  let ofYear := ofEra - (365 * y + y / 4 - y / 100)
  let shifted := (5 * ofYear + 2) / 153
  let month := if shifted < 10 then shifted + 3 else shifted - 9
  let year : Int := y + era * 400 + (if month ≤ 2 then 1 else 0)
  { seconds := seconds
    year := year
    month := month
    day := ofYear - (153 * shifted + 2) / 5 + 1
    hour := rest / 3600
    minute := rest / 60 % 60
    second := rest % 60
    weekday := ((days + 4).fmod 7).toNat
    yearDay := (days - dayNumber year 1 1).toNat }

def two (n : Nat) : String :=
  Floating.zeroFilled 2 (Nat.repr n)

/-- A number with a blank in the place of a missing digit. -/
def twoBlank (n : Nat) : String :=
  padded 2 false (Nat.repr n)

def letter (m : Moment) (nanoseconds : Nat) (c : Char) : Option String :=
  let dayName := weekdays.getD m.weekday ""
  let monthName := months.getD (m.month - 1) ""
  let hour12 := if m.hour % 12 = 0 then 12 else m.hour % 12
  let clock := two m.hour ++ ":" ++ two m.minute ++ ":" ++ two m.second
  let date := two m.month ++ "/" ++ two m.day ++ "/" ++ two (m.year.toNat % 100)
  let mondayBased := (m.weekday + 6) % 7
  match c with
  | 'a' => some (takeText 3 dayName)
  | 'A' => some dayName
  | 'b' | 'h' => some (takeText 3 monthName)
  | 'B' => some monthName
  | 'c' => some (takeText 3 dayName ++ " " ++ takeText 3 monthName ++ " " ++ twoBlank m.day ++ " " ++
      clock ++ " " ++ Int.repr m.year)
  | 'C' => some (two (m.year.toNat / 100))
  | 'd' => some (two m.day)
  | 'D' | 'x' => some date
  | 'e' => some (twoBlank m.day)
  | 'F' => some (Int.repr m.year ++ "-" ++ two m.month ++ "-" ++ two m.day)
  | 'H' => some (two m.hour)
  | 'I' => some (two hour12)
  | 'j' => some (Floating.zeroFilled 3 (Nat.repr (m.yearDay + 1)))
  | 'k' => some (twoBlank m.hour)
  | 'l' => some (twoBlank hour12)
  | 'm' => some (two m.month)
  | 'M' => some (two m.minute)
  | 'n' => some "\n"
  | 'N' => some (Floating.zeroFilled 9 (Nat.repr nanoseconds))
  | 'p' => some (if m.hour < 12 then "AM" else "PM")
  | 'P' => some (if m.hour < 12 then "am" else "pm")
  | 'r' => some (two hour12 ++ ":" ++ two m.minute ++ ":" ++ two m.second ++ (if m.hour < 12 then " AM" else " PM"))
  | 'R' => some (two m.hour ++ ":" ++ two m.minute)
  | 's' => some (Int.repr m.seconds)
  | 'S' => some (two m.second)
  | 't' => some "\t"
  | 'T' | 'X' => some clock
  | 'u' => some (Nat.repr (mondayBased + 1))
  | 'U' => some (two ((m.yearDay + 7 - m.weekday) / 7))
  | 'w' => some (Nat.repr m.weekday)
  | 'W' => some (two ((m.yearDay + 7 - mondayBased) / 7))
  | 'y' => some (two (m.year.toNat % 100))
  | 'Y' => some (Int.repr m.year)
  | 'z' => some "+0000"
  | 'Z' => some "UTC"
  | '%' => some "%"
  | _ => none

def shown (m : Moment) (nanoseconds : Nat) (format : List Char) : String :=
  match format with
  | [] => ""
  | '%' :: '-' :: c :: rest =>
    let text := (m.letter nanoseconds c).getD (String.ofList ['%', '-', c])
    let short := text.toList.dropWhile fun d => d == '0' || d == ' '
    (if short.isEmpty then "0" else String.ofList short) ++ m.shown nanoseconds rest
  | '%' :: c :: rest =>
    (m.letter nanoseconds c).getD (String.ofList ['%', c]) ++ m.shown nanoseconds rest
  | c :: rest => String.singleton c ++ m.shown nanoseconds rest

end Moment
end SpeechConfig.Shell
