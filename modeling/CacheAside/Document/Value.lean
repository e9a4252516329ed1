import CacheAside.Bytes
import CacheAside.Number.Binary64
import CacheAside.Number.Decimal128
import CacheAside.Table
import CacheAside.Text.Hex

set_option autoImplicit false

namespace CacheAside

structure ObjectId where
  bytes : Bytes
  length_eq : bytes.length = 12
  deriving DecidableEq, Repr

namespace ObjectId

def ofBytes? (bs : Bytes) : Option ObjectId :=
  if h : bs.length = 12 then some ⟨bs, h⟩ else none

def ofHex? (s : String) : Option ObjectId :=
  Text.bytesOfHex? s >>= ofBytes?

def hex (i : ObjectId) : String :=
  Text.hexOfBytes i.bytes

def ofNat (n : Nat) : ObjectId :=
  ⟨Bytes.bigEndian 12 n, Bytes.length_bigEndian 12 n⟩

end ObjectId

/-- Dates are milliseconds since the start of 1970, and time stamps seconds since then with a
counter. The kind of bytes is a number, zero for none, and the options of a pattern are letters in
order. -/
inductive DocValue where
  | double (value : Binary64)
  | text (value : String)
  | document (fields : List (String × DocValue))
  | array (items : List DocValue)
  | binary (kind : UInt8) (bytes : Bytes)
  | objectId (id : ObjectId)
  | bool (value : Bool)
  | date (millis : Int64)
  | null
  | int32 (value : Int32)
  | int64 (value : Int64)
  | decimal (value : Decimal128)
  | timestamp (seconds counter : UInt32)
  | regex (pattern options : String)
  | symbol (name : String)
  | code (source : String)
  | scopedCode (source : String) (scope : List (String × DocValue))
  | pointer (collection : String) (id : ObjectId)
  | undefined
  | minKey
  | maxKey
  deriving Repr

abbrev Document : Type := List (String × DocValue)

namespace DocValue

instance : Inhabited DocValue := ⟨.null⟩

mutual

/-- Equality as values: doubles by number, documents in any order of fields. -/
def same : DocValue → DocValue → Bool
  | .double a, .double b => a.same b
  | .text a, .text b => a == b
  | .document as, .document bs => as.length == bs.length && sameFields as bs
  | .array as, .array bs => sameItems as bs
  | .binary j as, .binary k bs => j == k && as == bs
  | .objectId a, .objectId b => a == b
  | .bool a, .bool b => a == b
  | .date a, .date b => a == b
  | .null, .null => true
  | .int32 a, .int32 b => a == b
  | .int64 a, .int64 b => a == b
  | .decimal a, .decimal b => a == b
  | .timestamp s a, .timestamp t b => s == t && a == b
  | .regex p a, .regex q b => p == q && a == b
  | .symbol a, .symbol b => a == b
  | .code a, .code b => a == b
  | .scopedCode s as, .scopedCode t bs => s == t && as.length == bs.length && sameFields as bs
  | .pointer c a, .pointer d b => c == d && a == b
  | .undefined, .undefined => true
  | .minKey, .minKey => true
  | .maxKey, .maxKey => true
  | _, _ => false

def sameItems : List DocValue → List DocValue → Bool
  | [], [] => true
  | a :: as, b :: bs => same a b && sameItems as bs
  | _, _ => false

def sameFields : List (String × DocValue) → List (String × DocValue) → Bool
  | [], _ => true
  | (n, a) :: as, bs =>
    (match Table.lookup n bs with
      | some b => same a b
      | none => false) && sameFields as bs

end

mutual

/-- Equality as a collection compares values: doubles by number, documents field by field in
order. -/
def alike : DocValue → DocValue → Bool
  | .document as, .document bs => alikeFields as bs
  | .array as, .array bs => alikeItems as bs
  | .double a, .double b => a.same b
  | .text a, .text b => a == b
  | .binary j as, .binary k bs => j == k && as == bs
  | .objectId a, .objectId b => a == b
  | .bool a, .bool b => a == b
  | .date a, .date b => a == b
  | .null, .null => true
  | .int32 a, .int32 b => a == b
  | .int64 a, .int64 b => a == b
  | .decimal a, .decimal b => a == b
  | .timestamp s a, .timestamp t b => s == t && a == b
  | .regex p a, .regex q b => p == q && a == b
  | .symbol a, .symbol b => a == b
  | .code a, .code b => a == b
  | .scopedCode s as, .scopedCode t bs => s == t && alikeFields as bs
  | .pointer c a, .pointer d b => c == d && a == b
  | .undefined, .undefined => true
  | .minKey, .minKey => true
  | .maxKey, .maxKey => true
  | _, _ => false

def alikeItems : List DocValue → List DocValue → Bool
  | [], [] => true
  | a :: as, b :: bs => alike a b && alikeItems as bs
  | _, _ => false

def alikeFields : List (String × DocValue) → List (String × DocValue) → Bool
  | [], [] => true
  | (m, a) :: as, (n, b) :: bs => m == n && alike a b && alikeFields as bs
  | _, _ => false

end

end DocValue

namespace Document

def same (a b : Document) : Bool :=
  DocValue.same (.document a) (.document b)

def get? (d : Document) (name : String) : Option DocValue :=
  Table.lookup name d

def put (d : Document) (name : String) (v : DocValue) : Document :=
  Table.put name v d

def erase (d : Document) (name : String) : Document :=
  d.filter (·.1 ≠ name)

theorem get?_put (d : Document) (m n : String) (v : DocValue) :
    (d.put m v).get? n = if m = n then some v else d.get? n :=
  Table.lookup_put m n v d

theorem get?_erase (d : Document) (m n : String) :
    (d.erase m).get? n = if m = n then none else d.get? n :=
  Table.lookup_filter_ne m n d

end Document

end CacheAside
