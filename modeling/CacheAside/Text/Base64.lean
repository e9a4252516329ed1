set_option autoImplicit false

namespace CacheAside.Text

def base64Digit (n : Nat) : Char :=
  if n < 26 then Char.ofNat (0x41 + n)
  else if n < 52 then Char.ofNat (0x61 + (n - 26))
  else if n < 62 then Char.ofNat (0x30 + (n - 52))
  else if n = 62 then '+' else '/'

def base64Digit? (c : Char) : Option Nat :=
  let n := c.toNat
  if 0x41 ≤ n ∧ n ≤ 0x5a then some (n - 0x41)
  else if 0x61 ≤ n ∧ n ≤ 0x7a then some (n - 0x61 + 26)
  else if 0x30 ≤ n ∧ n ≤ 0x39 then some (n - 0x30 + 52)
  else if c = '+' then some 62
  else if c = '/' then some 63
  else none

def base64Chars : List UInt8 → List Char
  | [] => []
  | [a] =>
    let n := a.toNat * 16
    [base64Digit (n / 64), base64Digit (n % 64), '=', '=']
  | [a, b] =>
    let n := (a.toNat * 256 + b.toNat) * 4
    [base64Digit (n / 4096), base64Digit (n / 64 % 64), base64Digit (n % 64), '=']
  | a :: b :: c :: rest =>
    let n := (a.toNat * 256 + b.toNat) * 256 + c.toNat
    base64Digit (n / 262144) :: base64Digit (n / 4096 % 64) :: base64Digit (n / 64 % 64)
      :: base64Digit (n % 64) :: base64Chars rest

def base64OfBytes (bs : List UInt8) : String :=
  String.ofList (base64Chars bs)

/-- Reads groups of four; unused bits before the padding have to be zero. -/
def bytesOfBase64Chars? : List Char → Option (List UInt8)
  | [] => some []
  | [a, b, '=', '='] => do
    let x ← base64Digit? a
    let y ← base64Digit? b
    if y % 16 = 0 then return [UInt8.ofNat ((x * 64 + y) / 16)] else none
  | [a, b, c, '='] => do
    let x ← base64Digit? a
    let y ← base64Digit? b
    let z ← base64Digit? c
    let n := (x * 64 + y) * 64 + z
    if z % 4 = 0 then return [UInt8.ofNat (n / 1024), UInt8.ofNat (n / 4)] else none
  | a :: b :: c :: d :: rest => do
    let x ← base64Digit? a
    let y ← base64Digit? b
    let z ← base64Digit? c
    let w ← base64Digit? d
    let n := ((x * 64 + y) * 64 + z) * 64 + w
    let bs ← bytesOfBase64Chars? rest
    return UInt8.ofNat (n / 65536) :: UInt8.ofNat (n / 256) :: UInt8.ofNat n :: bs
  | _ => none

def bytesOfBase64? (s : String) : Option (List UInt8) :=
  bytesOfBase64Chars? s.toList

end CacheAside.Text
