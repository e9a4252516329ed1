import CacheAside.Bytes
import CacheAside.Json.Reader

set_option autoImplicit false

namespace CacheAside.Json

def bytesOfChars (cs : List Char) : Bytes :=
  Bytes.ofText (String.ofList cs)

/-- The bytes of a surrogate, after the pattern of other characters of its size. -/
def surrogateBytes (unit : Nat) : Bytes :=
  [UInt8.ofNat (0xe0 + unit / 0x1000), UInt8.ofNat (0x80 + unit / 0x40 % 0x40),
    UInt8.ofNat (0x80 + unit % 0x40)]

def readRawUnit (cs : List Char) : Option (Bytes × List Char) :=
  match readEscapedUnit cs with
  | some (c, rest) => some (bytesOfChars [c], rest)
  | none => do
    let (unit, rest) ← readUnit cs
    return (surrogateBytes unit, rest)

def readRawEscape : List Char → Option (Bytes × List Char)
  | 'u' :: rest => readRawUnit rest
  | rest => do
    let (c, rest) ← readEscape rest
    return (bytesOfChars [c], rest)

def readRawFrom : Nat → List Char → Option (Bytes × List Char)
  | 0, _ => none
  | _ + 1, [] => none
  | _ + 1, '"' :: rest => some ([], rest)
  | fuel + 1, '\\' :: rest => do
    let (front, rest) ← readRawEscape rest
    let (bs, rest) ← readRawFrom fuel rest
    return (front ++ bs, rest)
  | fuel + 1, c :: rest => do
    let (bs, rest) ← readRawFrom fuel rest
    return (bytesOfChars [c] ++ bs, rest)

def readRaw (cs : List Char) : Option (Bytes × List Char) :=
  readRawFrom (cs.length + 1) cs

end CacheAside.Json
