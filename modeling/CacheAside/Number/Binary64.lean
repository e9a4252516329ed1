import CacheAside.Number.Power

set_option autoImplicit false

namespace CacheAside

/-- Widths of a binary interchange format: bits of the fraction field, and the exponent of the
last place of the smallest numbers. -/
structure BinaryFormat where
  fractionBits : Nat
  exponentBits : Nat
  lowest : Int
  deriving DecidableEq, Repr

def binary64 : BinaryFormat := ⟨52, 11, -1074⟩

def binary32 : BinaryFormat := ⟨23, 8, -149⟩

namespace BinaryFormat

def infinity (f : BinaryFormat) : Nat :=
  (twoTo f.exponentBits - 1) * twoTo f.fractionBits

def signBit (f : BinaryFormat) : Nat :=
  twoTo (f.exponentBits + f.fractionBits)

/-- A finite magnitude pattern stands for `m * 2 ^ e`. -/
def decode (f : BinaryFormat) (magnitude : Nat) : Nat × Int :=
  let field := magnitude / twoTo f.fractionBits
  let fraction := magnitude % twoTo f.fractionBits
  if field = 0 then (fraction, f.lowest)
  else (fraction + twoTo f.fractionBits, f.lowest + (field - 1 : Nat))

def roundDiv (n d : Nat) : Nat :=
  let q := n / d
  let r := n % d
  if 2 * r < d then q
  else if d < 2 * r then q + 1
  else if q % 2 = 0 then q else q + 1

/-- The magnitude pattern nearest to `n / d`, a tie to the even pattern; large ratios give
infinity. -/
def ofRatio (f : BinaryFormat) (n d : Nat) : Nat :=
  if n = 0 then 0
  else
    let guess : Int := (n.log2 : Int) - (d.log2 : Int) - (f.fractionBits + 1 : Nat)
    let scale (e : Int) : Nat × Nat :=
      if 0 ≤ e then (n, d * twoTo e.toNat) else (n * twoTo (-e).toNat, d)
    let start := max guess f.lowest
    let first := scale start
    let e := if twoTo (f.fractionBits + 1) ≤ first.1 / first.2 then start + 1 else start
    let pair := scale e
    min f.infinity (roundDiv pair.1 pair.2 + (e - f.lowest).toNat * twoTo f.fractionBits)

end BinaryFormat

structure Binary64 where
  bits : UInt64
  deriving DecidableEq, Repr, Inhabited

namespace Binary64

def zero : Binary64 := ⟨0⟩

def isNegative (x : Binary64) : Bool :=
  0x8000000000000000 ≤ x.bits

def magnitude (x : Binary64) : Nat :=
  x.bits.toNat % binary64.signBit

def isNaN (x : Binary64) : Bool :=
  binary64.infinity < x.magnitude

def isFinite (x : Binary64) : Bool :=
  x.magnitude < binary64.infinity

def isZero (x : Binary64) : Bool :=
  x.magnitude == 0

/-- Equality as numbers: the two zeros are equal, and no NaN equals anything. -/
def same (x y : Binary64) : Bool :=
  !x.isNaN && !y.isNaN && (x.bits == y.bits || (x.isZero && y.isZero))

def unsignedZero (x : Binary64) : Binary64 :=
  if x.isZero then zero else x

def negate (x : Binary64) : Binary64 :=
  ⟨x.bits ^^^ 0x8000000000000000⟩

def ofMagnitude (n : Nat) : Binary64 :=
  ⟨UInt64.ofNat n⟩

def ofNat (n : Nat) : Binary64 :=
  ofMagnitude (binary64.ofRatio n 1)

def mulMagnitude (x y : Binary64) : Binary64 :=
  let (m, e) := binary64.decode x.magnitude
  let (n, d) := binary64.decode y.magnitude
  let s := e + d
  ofMagnitude (binary64.ofRatio (m * n * twoTo s.toNat) (twoTo (-s).toNat))

def divMagnitude (x y : Binary64) : Binary64 :=
  let (m, e) := binary64.decode x.magnitude
  let (n, d) := binary64.decode y.magnitude
  let s := e - d
  if n = 0 then ofMagnitude binary64.infinity
  else ofMagnitude (binary64.ofRatio (m * twoTo s.toNat) (n * twoTo (-s).toNat))

theorem same_iff (x y : Binary64) :
    x.same y = true ↔
      x.isNaN = false ∧ y.isNaN = false ∧ (x = y ∨ x.isZero = true ∧ y.isZero = true) := by
  cases x
  cases y
  simp [same, and_assoc]

/-- Numbers that are equal have one pattern once the zeros are merged. -/
theorem unsignedZero_eq_of_same {x y : Binary64} (h : x.same y = true) :
    x.unsignedZero = y.unsignedZero := by
  obtain ⟨-, -, h⟩ := (same_iff x y).1 h
  rcases h with rfl | ⟨hx, hy⟩
  · rfl
  · simp [unsignedZero, hx, hy]

end Binary64

structure Binary32 where
  bits : UInt32
  deriving DecidableEq, Repr, Inhabited

namespace Binary32

def isNegative (x : Binary32) : Bool :=
  0x80000000 ≤ x.bits

def magnitude (x : Binary32) : Nat :=
  x.bits.toNat % binary32.signBit

def isFinite (x : Binary32) : Bool :=
  x.magnitude < binary32.infinity

/-- The double with the same value; a NaN keeps its payload in the high bits and becomes quiet. -/
def widen (x : Binary32) : Binary64 :=
  let n := x.magnitude
  let wide : Nat :=
    if n < binary32.infinity then
      let (m, e) := binary32.decode n
      binary64.ofRatio (m * twoTo e.toNat) (twoTo (-e).toNat)
    else if n = binary32.infinity then binary64.infinity
    else
      let payload := (n - binary32.infinity) * 0x20000000
      binary64.infinity + (if payload < 0x8000000000000 then payload + 0x8000000000000 else payload)
  let y := Binary64.ofMagnitude wide
  if x.isNegative then y.negate else y

end Binary32

end CacheAside
