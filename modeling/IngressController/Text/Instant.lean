import IngressController.Text.Numeral
import IngressController.Text.Split

/-!
# Instants

An instant is written as a date and a time of day with the offset from the universal time, such as
`2024-02-29T23:59:60.5+01:00`. The marks within the date can be left out, and so can those within
the time and within the offset, of which the hours alone are enough. A year has four digits, or six
with a sign. Behind the offset there may be notes in brackets, of which the first can name a time
zone; they change nothing about the instant.

It is read as the nanoseconds since the beginning of the year 1970.
-/

set_option autoImplicit false

namespace IngressController.Text

/-! ### Parts -/

/-- Reads a number of so many digits. -/
def readPlaces? (places : Nat) (cs : List Char) : Option (Nat × List Char) := do
  let digits := cs.take places
  if digits.length < places then none
  else return (← readDigits? digits, cs.drop places)

/-- Reads two digits of a number up to a limit. -/
def readPair? (limit : Nat) (cs : List Char) : Option (Nat × List Char) :=
  (readPlaces? 2 cs).filter fun (n, _) => decide (n ≤ limit)

/-- Reads a mark if there is to be one. -/
def readMark? (marked : Bool) (mark : Char) (cs : List Char) : Option (List Char) :=
  match marked, cs with
  | false, cs => some cs
  | true, c :: rest => if c = mark then some rest else none
  | true, [] => none

/-- Whether a part of two digits follows. -/
def startsPart (marked : Bool) (mark : Char) : List Char → Bool
  | [] => false
  | c :: rest => if marked then c == mark else c.isDigit && rest.head?.any Char.isDigit

/-- Reads another part of two digits up to a limit, if one follows. -/
def readPart? (marked : Bool) (mark : Char) (limit : Nat) (cs : List Char) :
    Option (Option Nat × List Char) :=
  if startsPart marked mark cs then do
    let (n, cs) ← readPair? limit (← readMark? marked mark cs)
    return (some n, cs)
  else some (none, cs)

/-- Reads the fraction of a second, if there is one, as nanoseconds. -/
def readFraction? (cs : List Char) : Option (Nat × List Char) :=
  match cs with
  | '.' :: rest | ',' :: rest =>
    let digits := (rest.takeWhile Char.isDigit).take 9
    (readDigits? digits).map fun n =>
      (n * Nat.pow 10 (9 - digits.length), rest.drop digits.length)
  | cs => some (0, cs)

/-! ### The date -/

/-- Whether a year has a leap day. -/
def isLeapYear (year : Int) : Bool :=
  year % 4 == 0 && (year % 100 != 0 || year % 400 == 0)

/-- The number of days of a month. -/
def monthDays (year : Int) (month : Nat) : Nat :=
  match month with
  | 2 => if isLeapYear year then 29 else 28
  | 4 | 6 | 9 | 11 => 30
  | _ => 31

/-- The number of days from the first day of the year zero up to a year. -/
def daysBeforeYear (year : Int) : Int :=
  365 * year + (year + 3) / 4 - (year + 99) / 100 + (year + 399) / 400

/-- The number of days of a year before a month. -/
def daysBeforeMonth (year : Int) (month : Nat) : Nat :=
  ((List.range month).drop 1 |>.map (monthDays year)).foldl (· + ·) 0

/-- The number of days from the first day of the year zero up to a date. -/
def daysBefore (year : Int) (month day : Nat) : Int :=
  daysBeforeYear year + daysBeforeMonth year month + (day - 1 : Nat)

/-- Reads a year. There is no negative year zero. -/
def readYear? : List Char → Option (Int × List Char)
  | '+' :: cs => do
    let (year, cs) ← readPlaces? 6 cs
    if year ≤ 9999 then return ((year : Int), cs) else none
  | '-' :: cs => do
    let (year, cs) ← readPlaces? 6 cs
    if 0 < year ∧ year ≤ 9999 then return (-(year : Int), cs) else none
  | cs => (readPlaces? 4 cs).map fun (year, cs) => ((year : Int), cs)

/-- Reads a date as the days from the first day of the year zero. -/
def readDate? (cs : List Char) : Option (Int × List Char) := do
  let (year, cs) ← readYear? cs
  let marked := cs.head? == some '-'
  let (month, cs) ← readPair? 12 (← readMark? marked '-' cs)
  let (day, cs) ← readPair? 31 (← readMark? marked '-' cs)
  if 1 ≤ month ∧ 1 ≤ day ∧ day ≤ monthDays year month then
    return (daysBefore year month day, cs)
  else none

/-! ### The time -/

/-- Reads a time in hours, minutes and seconds, of which the later ones can be left out, as seconds
and nanoseconds. -/
def readClock? (hours seconds : Nat) (cs : List Char) : Option (Nat × Nat × List Char) := do
  let (hour, cs) ← readPair? hours cs
  let marked := cs.head? == some ':'
  let (minute?, cs) ← readPart? marked ':' 59 cs
  match minute? with
  | none => return (hour * 3600, 0, cs)
  | some minute =>
    let (second?, cs) ← readPart? marked ':' seconds cs
    match second? with
    | none => return (hour * 3600 + minute * 60, 0, cs)
    | some second =>
      let (fraction, cs) ← readFraction? cs
      return (hour * 3600 + minute * 60 + min second 59, fraction, cs)

/-- The greatest offset from the universal time in seconds. -/
def maxOffset : Nat := 25 * 3600 + 59 * 60 + 59

/-- Reads an offset behind its sign as seconds, to the nearest one. -/
def readOffset? (cs : List Char) : Option (Nat × List Char) := do
  let (seconds, fraction, cs) ← readClock? 25 59 cs
  let seconds := if 500000000 ≤ fraction then seconds + 1 else seconds
  if seconds ≤ maxOffset then return (seconds, cs) else none

/-- Reads the offset from the universal time as seconds. -/
def readZone? : List Char → Option (Int × List Char)
  | 'Z' :: cs | 'z' :: cs => some (0, cs)
  | '+' :: cs => (readOffset? cs).map fun (seconds, cs) => ((seconds : Int), cs)
  | '-' :: cs => (readOffset? cs).map fun (seconds, cs) => (-(seconds : Int), cs)
  | _ => none

/-! ### Notes -/

/-- Whether a text begins with a character of one kind and goes on with those of another. -/
def isWord (first next : Char → Bool) : List Char → Bool
  | [] => false
  | c :: rest => first c && rest.all next

/-- Whether a text is a part of the name of a time zone. -/
def isZoneWord : List Char → Bool :=
  isWord (fun c => c.isAlpha || c == '_' || c == '.')
    (fun c => c.isAlphanum || c == '_' || c == '.' || c == '+' || c == '-')

/-- Whether a text is an offset of hours and perhaps minutes. -/
def isZoneOffset (cs : List Char) : Bool :=
  let read : Option (List Char) := do
    let (_, cs) ← readPair? 25 cs
    let (_, cs) ← readPart? (cs.head? == some ':') ':' 59 cs
    return cs
  read == some []

/-- Whether a text in brackets names a time zone, perhaps behind an exclamation mark. -/
def isZoneNote (cs : List Char) : Bool :=
  match if cs.head? == some '!' then cs.drop 1 else cs with
  | '+' :: cs | '-' :: cs => isZoneOffset cs
  | cs => (splitChars '/' cs).all isZoneWord

/-- Whether a text in brackets gives values for a key. -/
def isKeyNote (cs : List Char) : Bool :=
  match splitCharsOnce '=' cs with
  | some (key, values) =>
    isWord (fun c => c.isLower || c == '_')
      (fun c => c.isLower || c.isDigit || c == '_' || c == '-') key &&
      (splitChars '-' values).all (isWord Char.isAlphanum Char.isAlphanum)
  | none => false

/-- Whether what stands before a closing bracket is an opening one and a text of some kind. -/
def isBracketed (accepts : List Char → Bool) : List Char → Bool
  | '[' :: cs => accepts cs
  | _ => false

/-- Whether a text consists of notes. -/
def areNotes (cs : List Char) : Bool :=
  let parts := splitChars ']' cs
  parts.getLast? == some [] &&
    match parts.dropLast with
    | [] => true
    | first :: others =>
      isBracketed (fun cs => isZoneNote cs || isKeyNote cs) first &&
        others.all (isBracketed isKeyNote)

/-! ### Instants -/

/-- The nanoseconds of a second. -/
def nanosPerSecond : Int := 1000000000

/-- The first instant that can be read, in seconds: it is in any offset in the year -9999. -/
def firstSecond : Int := -377705023201

/-- The last second that can be read: it is in any offset in the year 9999. -/
def lastSecond : Int := 253402207200

/-- Reads an instant. -/
def readInstant? (s : String) : Option Int := do
  let (days, cs) ← readDate? s.toList
  match cs with
  | mark :: cs =>
    if mark = 'T' ∨ mark = 't' ∨ mark = ' ' then
      let (seconds, fraction, cs) ← readClock? 23 60 cs
      let (offset, cs) ← readZone? cs
      let seconds := (days - daysBefore 1970 1 1) * 86400 + seconds - offset
      let instant := seconds * nanosPerSecond + fraction
      if areNotes cs ∧ firstSecond * nanosPerSecond ≤ instant ∧ seconds ≤ lastSecond then
        return instant
      else none
    else none
  | [] => none

example : readInstant? "1970-01-01T00Z" = some 0 := by decide +kernel

example : readInstant? "20240229T235960,25+0100[Europe/Paris]" = some 1709247599250000000 := by
  decide +kernel

end IngressController.Text
