import CacheAside.Time.Instant

set_option autoImplicit false

namespace CacheAside.Instant

def readWide (width : Nat) (cs : List Char) : Option (Nat × List Char) :=
  let ds := cs.take width
  if ds.length = width ∧ ds.all Json.isDigit then
    some (ds.foldl (fun n c => 10 * n + Json.digitValue c) 0, cs.drop width)
  else none

def dropMark (mark : Char) : List Char → Option (List Char)
  | c :: rest => if c = mark then some rest else none
  | [] => none

def dropSeparator : List Char → Option (List Char)
  | c :: rest => if c.toNat < 0x80 then some rest else none
  | [] => none

def readZone : List Char → Option (Int × List Char)
  | 'Z' :: rest | 'z' :: rest => some (0, rest)
  | sign :: rest => do
    let (hours, rest) ← readWide 2 rest
    let (minutes, rest) ← readWide 2 (← dropMark ':' rest)
    let offset : Nat := 3600 * hours + 60 * minutes
    if hours < 24 && minutes < 60 then
      if sign = '+' then some (offset, rest)
      else if sign = '-' then some (-offset, rest)
      else none
    else none
  | [] => none

def endsMonth (seconds : Int) : Bool :=
  seconds % 86400 == 86399 && (Date.ofDayNumber (seconds / 86400 + 1)).day == 1

/-- Reads the text of an instant. The sixtieth second is only there at the end of a month, and
stands for the last nanosecond before it. -/
def parseWide? (s : String) : Option Instant := do
  let (year, cs) ← readWide 4 s.toList
  let (month, cs) ← readWide 2 (← dropMark '-' cs)
  let (day, cs) ← readWide 2 (← dropMark '-' cs)
  let (hour, cs) ← readWide 2 (← dropSeparator cs)
  let (minute, cs) ← readWide 2 (← dropMark ':' cs)
  let (second, cs) ← readWide 2 (← dropMark ':' cs)
  let (nanos, cs) ← readFraction cs
  let (offset, cs) ← readZone cs
  let date : Date := ⟨year, month, day⟩
  let leap := second = 60
  let ofDay : Nat := 3600 * hour + 60 * minute + if leap then 59 else second
  let seconds := 86400 * date.dayNumber + ofDay - offset
  if cs.isEmpty && date.isValid && hour < 24 && minute < 60 && second ≤ 60
      && (!leap || endsMonth seconds) then
    return ⟨seconds, if leap then 999999999 else nanos⟩
  else none

def wholeMillis (t : Instant) : Int :=
  (1000000000 * t.seconds + t.nanos).tdiv 1000000

end CacheAside.Instant
