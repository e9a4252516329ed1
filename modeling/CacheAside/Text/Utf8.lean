import CacheAside.Bytes
import CacheAside.Text.Quoted

set_option autoImplicit false

namespace CacheAside.Text

def continuation? (b : UInt8) : Option Nat :=
  if 0x80 ≤ b ∧ b < 0xc0 then some (b.toNat - 0x80) else none

def continueChar (lead : Nat) : Nat → Bytes → Option (Nat × Bytes)
  | 0, bs => some (lead, bs)
  | _ + 1, [] => none
  | more + 1, b :: rest => do
    let low ← continuation? b
    continueChar (64 * lead + low) more rest

/-- The first character, in its shortest form, and the bytes behind it. -/
def decodeFront? : Bytes → Option (Char × Bytes)
  | [] => none
  | b :: rest => do
    let n := b.toNat
    let (lead, more, least) ←
      if n < 0x80 then some (n, 0, 0)
      else if 0xc0 ≤ n ∧ n < 0xe0 then some (n - 0xc0, 1, 0x80)
      else if 0xe0 ≤ n ∧ n < 0xf0 then some (n - 0xe0, 2, 0x800)
      else if 0xf0 ≤ n ∧ n < 0xf8 then some (n - 0xf0, 3, 0x10000)
      else none
    let (value, rest) ← continueChar lead more rest
    if h : least ≤ value ∧ value.isValidChar then
      return (Char.ofNatAux value h.2, rest)
    else none

def decodeAll? : Nat → Bytes → Option (List Char)
  | _, [] => some []
  | 0, _ => none
  | fuel + 1, bs => do
    let (c, rest) ← decodeFront? bs
    let cs ← decodeAll? fuel rest
    return c :: cs

def decode? (bs : Bytes) : Option String :=
  String.ofList <$> decodeAll? bs.length bs

def upperHexDigit (n : Nat) : Char :=
  if n < 10 then Char.ofNat (0x30 + n) else Char.ofNat (0x37 + n)

/-- The quotation of bytes: characters as in a text, every other byte by its value. -/
def quoteBytes : Nat → Bytes → List Char
  | 0, _ => []
  | _ + 1, [] => []
  | fuel + 1, b :: rest =>
    match decodeFront? (b :: rest) with
    | some (c, rest) => quoteChar c ++ quoteBytes fuel rest
    | none =>
      ['\\', 'x', upperHexDigit (b.toNat / 16), upperHexDigit (b.toNat % 16)]
        ++ quoteBytes fuel rest

def quotedBytes (bs : Bytes) : String :=
  String.ofList ('"' :: quoteBytes bs.length bs ++ ['"'])

end CacheAside.Text
