import CacheAside.Bytes
import CacheAside.Digest.Murmur32
import CacheAside.Json.Serial
/-!
The values that make up a primary key, their equality, and the bytes that stand for them. Each
value is written as a one-byte tag and a big-endian body; a body of variable width is preceded by
its length.
-/

set_option autoImplicit false

namespace CacheAside

inductive KeyPart where
  | bool (value : Bool)
  | int (value : Int64)
  | uint (value : UInt64)
  | float (value : Binary64)
  | text (value : String)
  | bytes (value : Bytes)
  | json (value : Json)
  | hashed (value : Bytes)
  deriving Repr, Inhabited

inductive KeyError where
  | oversized
  deriving DecidableEq, Repr

def KeyError.message : KeyError → String
  | .oversized => "key value longer than 4 GiB"

namespace KeyPart

def tag : KeyPart → UInt8
  | .bool _ => 1
  | .int _ => 2
  | .uint _ => 3
  | .float _ => 4
  | .text _ => 5
  | .bytes _ => 6
  | .json _ => 7
  | .hashed _ => 8

/-- Equality as values: doubles by number, JSON objects in any order of fields. -/
def same : KeyPart → KeyPart → Bool
  | .bool a, .bool b => a == b
  | .int a, .int b => a == b
  | .uint a, .uint b => a == b
  | .float a, .float b => a.same b
  | .text a, .text b => a == b
  | .bytes a, .bytes b => a == b
  | .json a, .json b => a.same b
  | .hashed a, .hashed b => a == b
  | _, _ => false

def sameTuple : List KeyPart → List KeyPart → Bool
  | [], [] => true
  | a :: as, b :: bs => a.same b && sameTuple as bs
  | _, _ => false

/-- A body of variable width behind its length, which has to fit four bytes. -/
def prefixed (body : Bytes) : Except KeyError Bytes :=
  if body.length < 0x100000000 then .ok (Bytes.bigEndian 4 body.length ++ body)
  else .error .oversized

/-- What follows the tag. The two zeros of a double have one body, and of hashed bytes only the
digest is written. -/
def body : KeyPart → Except KeyError Bytes
  | .bool b => .ok [if b then 1 else 0]
  | .int n => .ok (Bytes.bigEndian 8 n.toUInt64.toNat)
  | .uint n => .ok (Bytes.bigEndian 8 n.toNat)
  | .float x => .ok (Bytes.bigEndian 8 x.unsignedZero.bits.toNat)
  | .text s => prefixed (Bytes.ofText s)
  | .bytes bs => prefixed bs
  | .json v => prefixed (Bytes.ofText v.canonical)
  | .hashed bs => .ok (Bytes.bigEndian 4 (Digest.murmur32 bs).toNat)

def encode (p : KeyPart) : Except KeyError Bytes := do
  let bs ← p.body
  return p.tag :: bs

def encodeTuple : List KeyPart → Except KeyError Bytes
  | [] => .ok []
  | p :: rest => do
    let bs ← p.encode
    let more ← encodeTuple rest
    return bs ++ more

end KeyPart

end CacheAside
