import CacheAside.Number.Shortest
import CacheAside.Number.Unsigned

set_option autoImplicit false

namespace CacheAside

def readSigned? (bound : Nat) : List Char → Option Int
  | '-' :: '+' :: _ => none
  | '-' :: rest => (Unsigned.read (bound + 1) rest).toOption.map fun n => -n
  | cs => (Unsigned.read bound cs).toOption.map fun n => n

/-- A numeral taken apart: its digits as one number, and the power of ten of the last of them. -/
structure Digits where
  value : Nat
  scale : Int
  deriving DecidableEq, Repr

namespace Digits

def valueOf (cs : List Char) : Nat :=
  cs.foldl (fun n c => 10 * n + (c.toNat - 0x30)) 0

def ofChars (whole fraction : List Char) : Digits :=
  ⟨valueOf (whole ++ fraction), -(fraction.length : Int)⟩

def read? (cs : List Char) : Option (Digits × List Char) :=
  let whole := cs.takeWhile Char.isDigit
  match cs.dropWhile Char.isDigit with
  | '.' :: rest =>
    let fraction := rest.takeWhile Char.isDigit
    if whole.isEmpty && fraction.isEmpty then none
    else some (ofChars whole fraction, rest.dropWhile Char.isDigit)
  | rest => if whole.isEmpty then none else some (ofChars whole [], rest)

def readExponent? : List Char → Option Int
  | [] => some 0
  | c :: rest =>
    if c = 'e' ∨ c = 'E' then
      let digits (cs : List Char) : Option Int :=
        if cs.isEmpty || !cs.all Char.isDigit then none
        else some (valueOf cs)
      match rest with
      | '-' :: rest => (digits rest).map (- ·)
      | '+' :: rest => digits rest
      | rest => digits rest
    else none

/-- The nearest double. Powers of ten far beyond the doubles are not worked out. -/
def toDouble (d : Digits) : Binary64 :=
  let magnitude := d.scale + (decimalChars d.value).length
  if d.value = 0 ∨ magnitude < -400 then .zero
  else if 400 < magnitude then .ofMagnitude binary64.infinity
  else
    .ofMagnitude (binary64.ofRatio (d.value * tenTo d.scale.toNat) (tenTo (-d.scale).toNat))

end Digits

namespace Binary64

def infinity : Binary64 := ofMagnitude binary64.infinity

def quietNaN : Binary64 := ⟨0x7ff8000000000000⟩

def readMagnitude? (cs : List Char) : Option Binary64 :=
  let word := String.ofList (cs.map Char.toLower)
  if word = "inf" ∨ word = "infinity" then some infinity
  else if word = "nan" then some quietNaN
  else do
    let (d, rest) ← Digits.read? cs
    let e ← Digits.readExponent? rest
    return Digits.toDouble { d with scale := d.scale + e }

def parse? (s : String) : Option Binary64 :=
  match s.toList with
  | '-' :: rest => (readMagnitude? rest).map negate
  | '+' :: rest => readMagnitude? rest
  | cs => readMagnitude? cs

end Binary64

end CacheAside
