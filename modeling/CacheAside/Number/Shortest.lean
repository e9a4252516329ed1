import CacheAside.Number.Binary64

set_option autoImplicit false

namespace CacheAside

/-- The digits of a number, none for zero, and the power of ten of the first. -/
structure Decimal where
  digits : List Char
  leading : Int
  deriving DecidableEq, Repr

def decimalChars (n : Nat) : List Char :=
  Nat.toDigits 10 n

def Decimal.ofScaled (n : Nat) (scale : Int) : Decimal :=
  let cs := decimalChars n
  ⟨((cs.reverse).dropWhile (· == '0')).reverse, scale + (cs.length - 1 : Nat)⟩

def scaleRatio (n d : Nat) (e : Int) : Nat × Nat :=
  (n * tenTo e.toNat, d * tenTo (-e).toNat)

/-- The power of ten at the first digit of `n / d`, for ratios above `10 ^ (-400)`. -/
def leadingExponent (n d : Nat) : Int :=
  ((decimalChars (n * tenTo 400 / d)).length : Int) - 401

/-- The reals that round to one binary number: from `low / d` to `high / d`, around `mid / d`. -/
structure Interval where
  low : Nat
  mid : Nat
  high : Nat
  den : Nat
  closed : Bool
  deriving Repr

def BinaryFormat.interval (f : BinaryFormat) (m : Nat) (e : Int) : Interval :=
  let near := m = twoTo f.fractionBits ∧ f.lowest < e
  let up := twoTo e.toNat
  let den := 4 * twoTo (-e).toNat
  ⟨(4 * m - if near then 1 else 2) * up, 4 * m * up, (4 * m + 2) * up, den, m % 2 = 0⟩

def Interval.holds (v : Interval) (n d : Nat) : Bool :=
  if v.closed then v.low * d ≤ n * v.den && n * v.den ≤ v.high * d
  else v.low * d < n * v.den && n * v.den < v.high * d

def Interval.onGrid? (v : Interval) (scale : Int) : Option Nat :=
  let (n, d) := scaleRatio v.mid v.den (-scale)
  let down := n / d
  let inside (k : Nat) : Bool :=
    let (p, q) := scaleRatio k 1 scale
    v.holds p q
  let twice := 2 * (n % d)
  let preferUp := d < twice || (twice == d && down % 2 == 1)
  match inside down, inside (down + 1) with
  | true, true => some (if preferUp then down + 1 else down)
  | true, false => some down
  | false, true => some (down + 1)
  | false, false => none

/-- Tries grids with one, two, … digits; seventeen always suffice. -/
def Interval.shortest (v : Interval) (leading : Int) : Nat → Nat → Decimal
  | 0, _ => ⟨[], 0⟩
  | fuel + 1, places =>
    let scale := leading - (places : Int)
    match v.onGrid? scale with
    | some k => .ofScaled k scale
    | none => shortest v leading fuel (places + 1)

def BinaryFormat.shortest (f : BinaryFormat) (magnitude : Nat) : Decimal :=
  if magnitude = 0 then ⟨[], 0⟩
  else
    let (m, e) := f.decode magnitude
    let v := f.interval m e
    v.shortest (leadingExponent v.mid v.den) 20 0

/-- Where a written number leaves positional notation: the powers of ten of the first digit
between which it is written in full. -/
structure NumberLayout where
  leastPlain : Int
  greatestPlain : Int
  deriving DecidableEq, Repr

def Decimal.plain (d : Decimal) : List Char :=
  match d.digits with
  | [] => ['0', '.', '0']
  | ds =>
    if 0 ≤ d.leading then
      let k := d.leading.toNat + 1
      let whole := ds.take k ++ List.replicate (k - ds.length) '0'
      let frac := ds.drop k
      whole ++ '.' :: (if frac.isEmpty then ['0'] else frac)
    else
      '0' :: '.' :: List.replicate ((-d.leading).toNat - 1) '0' ++ ds

def Decimal.scientific (d : Decimal) : List Char :=
  let e := decimalChars d.leading.natAbs
  let mark := 'e' :: (if d.leading < 0 then '-' else '+') :: e
  match d.digits with
  | [] => '0' :: mark
  | [c] => c :: mark
  | c :: rest => c :: '.' :: rest ++ mark

def NumberLayout.write (l : NumberLayout) (d : Decimal) : List Char :=
  if d.digits.isEmpty || (l.leastPlain ≤ d.leading && d.leading ≤ l.greatestPlain) then d.plain
  else d.scientific

def signed (negative : Bool) (cs : List Char) : List Char :=
  if negative then '-' :: cs else cs

def doubleLayout : NumberLayout := ⟨-5, 15⟩

def singleLayout : NumberLayout := ⟨-6, 12⟩

def Binary64.chars (x : Binary64) : List Char :=
  signed x.isNegative (doubleLayout.write (binary64.shortest x.magnitude))

def Binary64.plainChars (x : Binary64) : List Char :=
  signed x.isNegative (binary64.shortest x.magnitude).plain

def Binary32.chars (x : Binary32) : List Char :=
  signed x.isNegative (singleLayout.write (binary32.shortest x.magnitude))

end CacheAside
