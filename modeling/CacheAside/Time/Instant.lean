import CacheAside.Json.Numeral
import CacheAside.Text.Whitespace
import CacheAside.Time.Calendar
/-!
Instants in UTC and their texts. A leap second is the last second of its minute with a second more
of nanoseconds. Texts are written with as few groups of three fraction digits as are exact, and
read with any number of them, with any offset, and with blanks between the components.
-/

set_option autoImplicit false

namespace CacheAside

/-- Seconds since the start of 1970 and nanoseconds, at most two seconds of them. -/
structure Instant where
  seconds : Int
  nanos : Nat
  deriving DecidableEq, Repr

namespace Instant

def epoch : Instant := ⟨0, 0⟩

def millis (t : Instant) : Int :=
  1000 * t.seconds + (t.nanos / 1000000 : Nat)

def padded (width n : Nat) : List Char :=
  let ds := decimalChars n
  List.replicate (width - ds.length) '0' ++ ds

def yearChars (y : Int) : List Char :=
  if y < 0 then '-' :: padded 4 y.natAbs
  else if 9999 < y then '+' :: padded 4 y.natAbs
  else padded 4 y.natAbs

def fractionChars (nanos : Nat) : List Char :=
  if nanos = 0 then []
  else if nanos % 1000000 = 0 then '.' :: padded 3 (nanos / 1000000)
  else if nanos % 1000 = 0 then '.' :: padded 6 (nanos / 1000)
  else '.' :: padded 9 nanos

def text (t : Instant) : String :=
  let d := Date.ofDayNumber (t.seconds / 86400)
  let s := (t.seconds % 86400).toNat
  let leap := 1000000000 ≤ t.nanos
  String.ofList <|
    yearChars d.year ++ '-' :: padded 2 d.month ++ '-' :: padded 2 d.day
    ++ 'T' :: padded 2 (s / 3600) ++ ':' :: padded 2 (s / 60 % 60)
    ++ ':' :: padded 2 (s % 60 + if leap then 1 else 0)
    ++ fractionChars (t.nanos % 1000000000) ++ ['Z']

def firstDay : Int := (Date.mk (-262143) 1 1).dayNumber

def lastDay : Int := (Date.mk 262142 12 31).dayNumber

def inCalendar (seconds : Int) : Bool :=
  firstDay ≤ seconds / 86400 && seconds / 86400 ≤ lastDay

def readNumber (most : Nat) (cs : List Char) : Option (Nat × List Char) :=
  let cs := cs.dropWhile Text.isWhitespace
  let ds := (cs.takeWhile Json.isDigit).take most
  if ds.isEmpty then none
  else some (ds.foldl (fun n c => 10 * n + Json.digitValue c) 0, cs.drop ds.length)

def readYear (cs : List Char) : Option (Int × List Char) :=
  match cs.dropWhile Text.isWhitespace with
  | '-' :: c :: rest =>
    if Json.isDigit c then (readNumber (rest.length + 1) (c :: rest)).map fun (n, r) => (-n, r)
    else none
  | '+' :: c :: rest =>
    if Json.isDigit c then (readNumber (rest.length + 1) (c :: rest)).map fun (n, r) => (n, r)
    else none
  | cs => (readNumber 4 cs).map fun (n, r) => (n, r)

def readMark (mark : Char) (cs : List Char) : Option (List Char) :=
  match cs.dropWhile Text.isWhitespace with
  | c :: rest => if c = mark then some rest else none
  | [] => none

def readFraction : List Char → Option (Nat × List Char)
  | '.' :: rest =>
    let (ds, after) := Json.spanDigits rest
    if ds.isEmpty then none
    else
      let kept := ds.take 9
      let n := kept.foldl (fun n c => 10 * n + Json.digitValue c) 0
      some (n * tenTo (9 - kept.length), after)
  | cs => some (0, cs)

def readOffsetDigits : List Char → Option (Int × List Char)
  | a :: b :: rest =>
    match rest.dropWhile fun c => c = ':' || Text.isWhitespace c with
    | c :: d :: rest =>
      if [a, b, c, d].all Json.isDigit && c ≤ '5' then
        let hours := 10 * Json.digitValue a + Json.digitValue b
        let minutes := 10 * Json.digitValue c + Json.digitValue d
        some ((3600 * hours + 60 * minutes : Nat), rest)
      else none
    | _ => none
  | _ => none

def readOffset (cs : List Char) : Option (Int × List Char) :=
  match cs.dropWhile Text.isWhitespace with
  | 'Z' :: rest | 'z' :: rest => some (0, rest)
  | '+' :: rest => readOffsetDigits rest
  | '-' :: rest | '\u2212' :: rest => (readOffsetDigits rest).map fun (n, r) => (-n, r)
  | a :: b :: c :: rest =>
    if [a, b, c].map Char.toUpper = ['U', 'T', 'C'] then some (0, rest) else none
  | _ => none

/-- Reads the text of an instant. The sixtieth second of a minute is a leap second. -/
def parse? (s : String) : Option Instant := do
  let (year, cs) ← readYear s.toList
  let (month, cs) ← readNumber 2 (← readMark '-' cs)
  let (day, cs) ← readNumber 2 (← readMark '-' cs)
  let cs ← match cs with
    | c :: rest => if c = 't' ∨ c = 'T' ∨ c = ' ' then some rest else none
    | [] => none
  let (hour, cs) ← readNumber 2 cs
  let (minute, cs) ← readNumber 2 (← readMark ':' cs)
  let (second, cs) ← readNumber 2 (← readMark ':' cs)
  let (nanos, cs) ← readFraction cs
  let (offset, cs) ← readOffset cs
  let date : Date := ⟨year, month, day⟩
  let leap := second = 60
  let ofDay : Nat := 3600 * hour + 60 * minute + if leap then 59 else second
  let local_ := 86400 * date.dayNumber + ofDay
  if (cs.dropWhile Text.isWhitespace).isEmpty && date.isValid && hour < 24 && minute < 60
      && second ≤ 60 && offset.natAbs < 86400 && inCalendar local_
      && inCalendar (local_ - offset) then
    return ⟨local_ - offset, nanos + if leap then 1000000000 else 0⟩
  else none

end Instant

end CacheAside
