import HeaderBindings.Text.Digit
import HeaderBindings.Toml.Basic

/-!
# Dates and times of TOML

A date, a time of day, or both, the latter with or without the offset of a time zone. The text that
is kept has a `T` between date and time, fractions of seconds to the nanosecond without trailing
zeros, and offsets in a single form.
-/

namespace HeaderBindings.Toml

open HeaderBindings.Text (isDigit number?)

/-- Reads a number of exactly `count` digits. -/
def readField (count : Nat) (cs : List Char) : Option (Nat × List Char) :=
  let digits := cs.take count
  if digits.length = count && digits.all isDigit then do
    return (← number? 10 digits, cs.drop count)
  else none

/-- Reads a number of two digits that is at least `lo` and at most `hi`. -/
def readPart (lo hi : Nat) (cs : List Char) : Option (Nat × List Char) := do
  let (n, rest) ← readField 2 cs
  if lo ≤ n ∧ n ≤ hi then some (n, rest) else none

def after? (c : Char) : List Char → Option (List Char)
  | d :: rest => if d = c then some rest else none
  | [] => none

def padded (width n : Nat) : String :=
  let digits := Nat.toDigits 10 n
  String.ofList (List.replicate (width - digits.length) '0' ++ digits)

/-! ### Dates -/

def isLeapYear (year : Nat) : Bool :=
  year % 4 = 0 && (year % 100 ≠ 0 || year % 400 = 0)

def daysIn (year month : Nat) : Nat :=
  if month = 2 then if isLeapYear year then 29 else 28
  else if month = 4 ∨ month = 6 ∨ month = 9 ∨ month = 11 then 30
  else 31

def readDate (cs : List Char) : Option (String × List Char) := do
  let (year, rest) ← readField 4 cs
  let rest ← after? '-' rest
  let (month, rest) ← readPart 1 12 rest
  let rest ← after? '-' rest
  let (day, rest) ← readPart 1 (daysIn year month) rest
  return (padded 4 year ++ "-" ++ padded 2 month ++ "-" ++ padded 2 day, rest)

/-! ### Times -/

/-- A fraction of a second that digits spell, to the nanosecond. -/
def fractionText (digits : List Char) : String :=
  match ((digits.take 9).reverse.dropWhile (· = '0')).reverse with
  | [] => ""
  | digits => String.ofList ('.' :: digits)

def readSecondFraction (cs : List Char) : Option (String × List Char) :=
  match cs with
  | '.' :: rest =>
    match rest.takeWhile isDigit with
    | [] => some ("", cs)
    | digits => some (fractionText digits, rest.dropWhile isDigit)
  | cs => some ("", cs)

def readTime (cs : List Char) : Option (String × List Char) := do
  let (hour, rest) ← readPart 0 23 cs
  let rest ← after? ':' rest
  let (minute, rest) ← readPart 0 59 rest
  let rest ← after? ':' rest
  let (second, rest) ← readPart 0 60 rest
  let (fraction, rest) ← readSecondFraction rest
  return (padded 2 hour ++ ":" ++ padded 2 minute ++ ":" ++ padded 2 second ++ fraction, rest)

/-- Reads the offset of a time zone. The offset of no minutes is positive. -/
def readOffset (cs : List Char) : Option (String × List Char) :=
  match cs with
  | 'Z' :: rest => some ("Z", rest)
  | 'z' :: rest => some ("Z", rest)
  | c :: rest =>
    if c = '+' || c = '-' then do
      let (hour, rest) ← readPart 0 23 rest
      let rest ← after? ':' rest
      let (minute, rest) ← readPart 0 59 rest
      let sign := if c = '-' && (hour, minute) ≠ (0, 0) then "-" else "+"
      return (sign ++ padded 2 hour ++ ":" ++ padded 2 minute, rest)
    else none
  | [] => none

/-- Reads the time behind a date, if there is one. -/
def readTimeOfDate (cs : List Char) : Option (String × List Char) :=
  match cs with
  | c :: rest =>
    if c = 'T' || c = 't' || c = ' ' then do
      let (time, rest) ← readTime rest
      match readOffset rest with
      | some (offset, rest) => return ("T" ++ time ++ offset, rest)
      | none => return ("T" ++ time, rest)
    else none
  | [] => none

/-- Reads a date, a time or both. -/
def readDatetime (cs : List Char) : Option (Toml × List Char) :=
  match readDate cs with
  | some (date, rest) =>
    match readTimeOfDate rest with
    | some (time, rest) => some (.datetime (date ++ time), rest)
    | none => some (.datetime date, rest)
  | none => (readTime cs).map fun (time, rest) => (.datetime time, rest)

end HeaderBindings.Toml
