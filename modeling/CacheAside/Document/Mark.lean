import CacheAside.Document.Value
import CacheAside.Json.Basic
import CacheAside.Number.Reading
import CacheAside.Text.Base64
import CacheAside.Text.Uuid
import CacheAside.Time.FixedWidth
/-!
Marks: the field names under which JSON holds the values it has no form for, such as `$oid`, `$date`
and `$binary`. A body is what stands behind a mark; one with several parts is an object with just
these parts, or an array of them in order.
-/

set_option autoImplicit false

namespace CacheAside.Mark

/-- The marks whose field has to stand alone. -/
def single : List String :=
  ["$oid", "$symbol", "$regularExpression", "$numberInt", "$numberLong", "$numberDouble",
    "$numberDecimal", "$binary", "$uuid", "$timestamp", "$dbPointer", "$date", "$minKey", "$maxKey",
    "$undefined"]

def all : List String :=
  "$code" :: "$scope" :: "$numberDecimalBytes" :: single

inductive PartKind where
  | text
  | word
  | id

def partsOf (mark : String) : List (String × PartKind) :=
  match mark with
  | "$binary" => [("base64", .text), ("subType", .text)]
  | "$timestamp" => [("t", .word), ("i", .word)]
  | "$regularExpression" => [("pattern", .text), ("options", .text)]
  | "$dbPointer" => [("$ref", .text), ("$id", .id)]
  | _ => []

def parts? (names : List String) : Json → Option (List Json)
  | .list items => if items.length = names.length then some items else none
  | .object fields =>
    if fields.length = names.length then names.mapM fun name => Table.lookup name fields else none
  | _ => none

def int32? (s : String) : Option Int32 :=
  (readSigned? 0x80000000 s.toList).map Int32.ofInt

def int64? (s : String) : Option Int64 :=
  (readSigned? 0x8000000000000000 s.toList).map Int64.ofInt

def word? : Json → Option UInt32
  | .int n => if 0 ≤ n ∧ n < 0x100000000 then some (UInt32.ofNat n.toNat) else none
  | _ => none

def textOnly : Json → Option Json
  | .text s => some (.text s)
  | _ => none

def wordOnly (v : Json) : Option Json :=
  (word? v).map fun _ => v

def millis? (n : Int) : Option Int64 :=
  if -0x8000000000000000 ≤ n ∧ n < 0x8000000000000000 then some (Int64.ofInt n) else none

def binary? (base64 kind : String) : Option DocValue := do
  let bs ← Text.bytesOfBase64? base64
  match ← Text.bytesOfHex? kind with
  | [k] => some (.binary k bs)
  | _ => none

def sortedLetters (s : String) : String :=
  String.ofList (s.toList.mergeSort fun a b => a.toNat ≤ b.toNat)

def regex (pattern options : String) : DocValue :=
  .regex pattern (sortedLetters options)

def ofText? (mark s : String) : Option DocValue :=
  match mark with
  | "$oid" => .objectId <$> ObjectId.ofHex? s
  | "$symbol" => some (.symbol s)
  | "$numberInt" => .int32 <$> int32? s
  | "$numberLong" => .int64 <$> int64? s
  | "$numberDouble" => .double <$> Binary64.parse? s
  | "$numberDecimal" => .decimal <$> Decimal128.parse? s
  | "$uuid" => .binary 4 <$> Text.bytesOfUuid? s
  | "$date" => (fun t => .date (Int64.ofInt t.wholeMillis)) <$> Instant.parseWide? s
  | _ => none

def ofInt? (mark : String) (n : Int) : Option DocValue :=
  match mark with
  | "$date" => .date <$> millis? n
  | "$minKey" => if n = 1 then some .minKey else none
  | "$maxKey" => if n = 1 then some .maxKey else none
  | _ => none

def ofParts? (mark : String) (body : Json) : Option DocValue :=
  match mark with
  | "$binary" => do
    match ← parts? ["base64", "subType"] body with
    | [.text base64, .text kind] => binary? base64 kind
    | _ => none
  | "$timestamp" => do
    match ← parts? ["t", "i"] body with
    | [t, i] => return .timestamp (← word? t) (← word? i)
    | _ => none
  | "$regularExpression" => do
    match ← parts? ["pattern", "options"] body with
    | [.text pattern, .text options] => some (regex pattern options)
    | _ => none
  | "$dbPointer" => do
    match ← parts? ["$ref", "$id"] body with
    | [.text collection, id] =>
      match ← parts? ["$oid"] id with
      | [.text s] => .pointer collection <$> ObjectId.ofHex? s
      | _ => none
    | _ => none
  | "$date" => do
    match ← parts? ["$numberLong"] body with
    | [.text s] => .date <$> int64? s
    | _ => none
  | _ => none

def value? (mark : String) : Json → Option DocValue
  | .text s => ofText? mark s
  | .int n => ofInt? mark n
  | .bool b => if mark = "$undefined" && b then some .undefined else none
  | body => ofParts? mark body

def decimalOfBytes? (bs : Bytes) : Option DocValue :=
  .decimal <$> Decimal128.ofBytes? bs

def bytesIn? : Json → Option Bytes
  | .text s => some (Bytes.ofText s)
  | .list items =>
    items.mapM fun v => do
      let n ← word? v
      if n < 0x100 then some n.toUInt8 else none
  | _ => none

end CacheAside.Mark
