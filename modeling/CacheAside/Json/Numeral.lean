import CacheAside.Json.Basic
/-!
JSON numerals. An integer that fits 64 bits stays an integer. Any other numeral is read as a
significand of at most 64 bits and a power of ten, and the double is the product or quotient of
the two, each rounded to the nearest double first.
-/

set_option autoImplicit false

namespace CacheAside.Json

def isDigit (c : Char) : Bool :=
  '0' ≤ c && c ≤ '9'

def digitValue (c : Char) : Nat :=
  c.toNat - 0x30

def spanDigits (cs : List Char) : List Char × List Char :=
  (cs.takeWhile isDigit, cs.dropWhile isDigit)

/-- A significand that stays below 64 bits, and its power of ten. -/
structure Scaled where
  significand : Nat
  exponent : Int
  deriving DecidableEq, Repr

def Scaled.push? (s : Scaled) (c : Char) : Option Scaled :=
  let n := 10 * s.significand + digitValue c
  if n < 0x10000000000000000 then some { s with significand := n } else none

/-- Takes in the digits before the point. From the first that no longer fits on, each only raises
the power of ten. -/
def Scaled.pushWhole (s : Scaled) : List Char → Scaled
  | [] => s
  | c :: rest =>
    match s.push? c with
    | some t => t.pushWhole rest
    | none => { s with exponent := s.exponent + (rest.length + 1 : Nat) }

def Scaled.pushFraction (s : Scaled) : List Char → Scaled
  | [] => s
  | c :: rest =>
    match s.push? c with
    | some t => pushFraction { t with exponent := t.exponent - 1 } rest
    | none => s

def powerOfTen (n : Nat) : Binary64 :=
  .ofNat (tenTo n)

/-- Scales a double by a power of ten in steps that the doubles can hold; a result that would be
infinite is refused. -/
def scaleDouble : Nat → Binary64 → Int → Option Binary64
  | 0, x, _ => some x
  | steps + 1, x, e =>
    if e.natAbs ≤ 308 then
      if 0 ≤ e then
        let y := x.mulMagnitude (powerOfTen e.natAbs)
        if y.isFinite then some y else none
      else some (x.divMagnitude (powerOfTen e.natAbs))
    else if x.isZero then some x
    else if 0 ≤ e then none
    else scaleDouble steps (x.divMagnitude (powerOfTen 308)) (e + 308)

def Scaled.toDouble (s : Scaled) : Option Binary64 :=
  scaleDouble 4 (.ofNat s.significand) s.exponent

def signedDouble (negative : Bool) (x : Binary64) : Json :=
  .float (if negative then x.negate else x)

def readExponent (cs : List Char) : Option (Int × List Char) :=
  let (negative, rest) := match cs with
    | '+' :: rest => (false, rest)
    | '-' :: rest => (true, rest)
    | rest => (false, rest)
  match spanDigits rest with
  | ([], _) => none
  | (ds, rest) =>
    let n : Int := ds.foldl (fun n c => 10 * n + digitValue c) 0
    some (if negative then -n else n, rest)

def Scaled.raise? (s : Scaled) (e : Int) : Option Binary64 :=
  if 0x80000000 ≤ e.natAbs then
    if s.significand ≠ 0 && 0 ≤ e then none else some .zero
  else ({ s with exponent := s.exponent + e } : Scaled).toDouble

def readScaled (negative : Bool) (s : Scaled) (cs : List Char) : Option (Json × List Char) :=
  match cs with
  | 'e' :: rest | 'E' :: rest => do
    let (e, rest) ← readExponent rest
    let x ← s.raise? e
    return (signedDouble negative x, rest)
  | rest => do
    let x ← s.toDouble
    return (signedDouble negative x, rest)

/-- An integer, or a double when it is a negative zero or beyond 64 bits. -/
def integerValue (negative : Bool) (s : Scaled) : Option Json :=
  if s.exponent ≠ 0 then (signedDouble negative) <$> s.toDouble
  else if !negative then some (.int s.significand)
  else if s.significand = 0 ∨ 0x8000000000000000 < s.significand then
    some (signedDouble true (.ofNat s.significand))
  else some (.int (-s.significand))

/-- Reads a numeral: no leading zeros, and digits on both sides of a point. -/
def readNumeral (cs : List Char) : Option (Json × List Char) :=
  let (negative, cs) := match cs with
    | '-' :: rest => (true, rest)
    | rest => (false, rest)
  match spanDigits cs with
  | ([], _) => none
  | ('0' :: _ :: _, _) => none
  | (ds, rest) =>
    let s := Scaled.pushWhole ⟨0, 0⟩ ds
    match rest with
    | '.' :: rest =>
      match spanDigits rest with
      | ([], _) => none
      | (fs, rest) => readScaled negative (s.pushFraction fs) rest
    | 'e' :: _ | 'E' :: _ => readScaled negative s rest
    | _ => (·, rest) <$> integerValue negative s

end CacheAside.Json
