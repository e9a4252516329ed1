import CacheAside.Bytes
import CacheAside.Number.Reading
/-!
Decimal numbers of thirty-four digits. A number keeps the digits it is written with, so that `1.5`
and `1.50` are two numbers; digits that do not fit may go only if they are zeros.
-/

set_option autoImplicit false

namespace CacheAside

inductive Decimal128 where
  | nan (negative signalling : Bool)
  | infinity (negative : Bool)
  | finite (negative : Bool) (coefficient : Nat) (exponent : Int)
  deriving DecidableEq, Repr

namespace Decimal128

def maxDigits : Nat := 34

def minExponent : Int := -6176

def maxExponent : Int := 6111

def significant (ds : List Char) : List Char :=
  match ds.dropWhile (· = '0') with
  | [] => ['0']
  | rest => rest

def truncate? (keep : Nat) (ds : List Char) : Option (List Char) :=
  if (ds.drop keep).all (· = '0') then some (ds.take keep) else none

/-- The exponent brought into range, and the digits with it. Zero has every exponent. -/
def clamp? (ds : List Char) (e : Int) : Option (List Char × Int) :=
  if e < minExponent then
    let count := (minExponent - e).toNat
    if ds = ['0'] then some (ds, minExponent)
    else if ds.length < count then none
    else (·, minExponent) <$> truncate? (ds.length - count) ds
  else if maxExponent < e then
    let count := (e - maxExponent).toNat
    if ds = ['0'] then some (ds, maxExponent)
    else if maxDigits < ds.length + count then none
    else some (ds ++ List.replicate count '0', maxExponent)
  else some (ds, e)

/-- The number that digits and an exponent make. What is left of the digits has to be a number, and
it may have a plus sign of its own, which is one of its characters until then. -/
def ofScaled? (negative : Bool) (ds : List Char) (e : Int) : Option Decimal128 := do
  let ds := significant ds
  let kept ← truncate? maxDigits ds
  let count := ds.length - kept.length
  if 0x7fff < count then none
  else do
    let (kept, e) ← clamp? kept (e + count)
    let n ← (Unsigned.read (tenTo maxDigits) kept).toOption
    return .finite negative n e

def readDigits? (negative : Bool) (cs : List Char) (e : Int) : Option Decimal128 :=
  let (whole, fraction) := match cs.dropWhile (· ≠ '.') with
    | '.' :: rest => (cs.takeWhile (· ≠ '.'), rest)
    | _ => (cs, [])
  let least := e - fraction.length
  if 0x7fff < fraction.length || least < -0x8000 then none
  else ofScaled? negative (whole ++ fraction) least

def readFinite? (negative : Bool) (cs : List Char) : Option Decimal128 :=
  match cs.dropWhile (· ≠ 'e') with
  | 'e' :: rest => readSigned? 0x8000 rest >>= readDigits? negative (cs.takeWhile (· ≠ 'e'))
  | _ => readDigits? negative cs 0

def readUnsigned? (negative : Bool) (cs : List Char) : Option Decimal128 :=
  let cs := cs.map Char.toLower
  let word := String.ofList cs
  if word = "nan" then some (.nan negative false)
  else if word = "snan" then some (.nan negative true)
  else if word = "inf" ∨ word = "infinity" then some (.infinity negative)
  else readFinite? negative cs

def parse? (s : String) : Option Decimal128 :=
  match s.toList with
  | '-' :: rest => readUnsigned? true rest
  | '+' :: rest => readUnsigned? false rest
  | cs => readUnsigned? false cs

def pointedChars (places : Nat) (ds : List Char) : List Char :=
  if places = 0 then ds
  else if ds.length ≤ places then '0' :: '.' :: List.replicate (places - ds.length) '0' ++ ds
  else ds.take (ds.length - places) ++ '.' :: ds.drop (ds.length - places)

def scientificChars (first : Int) (ds : List Char) : List Char :=
  let mantissa := match ds with
    | d :: [] => [d]
    | d :: rest => d :: '.' :: rest
    | [] => []
  mantissa ++ 'E' :: if 0 < first then '+' :: decimalChars first.toNat
    else '-' :: decimalChars first.natAbs

/-- Plain as long as nothing but the digits is needed, and no more than five zeros behind the
point. -/
def finiteChars (n : Nat) (e : Int) : List Char :=
  let ds := decimalChars n
  let first := e + ds.length - 1
  if e ≤ 0 ∧ -6 ≤ first then pointedChars e.natAbs ds else scientificChars first ds

def text : Decimal128 → String
  | .nan _ _ => "NaN"
  | .infinity negative => String.ofList (signed negative "Infinity".toList)
  | .finite negative n e => String.ofList (signed negative (finiteChars n e))

def written : Decimal128 → Decimal128
  | .nan _ _ => .nan false false
  | x => x

/-- The number of a word of 128 bits: a sign, then what it is or the exponent, then the
coefficient. A coefficient of too many digits counts as zero. -/
def ofWord (w : Nat) : Decimal128 :=
  let negative := w / twoTo 127 % 2 = 1
  if w / twoTo 123 % 16 = 15 then
    if w / twoTo 122 % 2 = 1 then .nan negative (w / twoTo 121 % 2 = 1) else .infinity negative
  else if w / twoTo 125 % 4 = 3 then
    .finite negative 0 ((w / twoTo 111 % twoTo 14 : Nat) + minExponent)
  else
    let n := w % twoTo 113
    .finite negative (if n < tenTo maxDigits then n else 0)
      ((w / twoTo 113 % twoTo 14 : Nat) + minExponent)

def ofBytes? (bs : Bytes) : Option Decimal128 :=
  if bs.length = 16 then some (ofWord (Bytes.ofLittleEndian bs)) else none

end Decimal128

end CacheAside
