import CacheAside.Document.Mark
import CacheAside.Fault
import CacheAside.Json.Fields
/-!
What is stored of entities and of their key values. Integers of keys are stored wide, whatever
their own width, and bytes without saying what they are. An object that is a marked value is stored
as that value, at any depth.
-/

set_option autoImplicit false

namespace CacheAside

class Stored (E : Type) where
  document : E → Document
  ofDocument : Document → Except ReadError E

inductive DocumentError where
  | server
  | unwritable
  | unreadable
  | other (fault : Fault)
  deriving DecidableEq, Repr

namespace DocumentError

def fault : DocumentError → Fault
  | .server => Fault.ofText "document server did not answer"
  | .unwritable => Fault.ofText "unsigned integer exceeds the signed range"
  | .unreadable => Fault.ofText "document does not hold the expected fields"
  | .other f => f

end DocumentError

namespace DocValue

def ofStoredParts? (mark : String) (body : Document) : Option DocValue :=
  match mark with
  | "$binary" =>
    match body.get? "base64", body.get? "subType" with
    | some (.text base64), some (.text kind) => Mark.binary? base64 kind
    | _, _ => none
  | "$timestamp" =>
    match body.get? "t", body.get? "i" with
    | some (.int32 t), some (.int32 i) =>
      some (.timestamp (UInt32.ofInt t.toInt) (UInt32.ofInt i.toInt))
    | some (.int64 t), some (.int64 i) =>
      return .timestamp (← Mark.word? (.int t.toInt)) (← Mark.word? (.int i.toInt))
    | _, _ => none
  | "$regularExpression" =>
    match body.get? "pattern", body.get? "options" with
    | some (.text pattern), some (.text options) => some (Mark.regex pattern options)
    | _, _ => none
  | "$dbPointer" =>
    match body.get? "$ref", body.get? "$id" with
    | some (.text collection), some (.objectId id) => some (.pointer collection id)
    | _, _ => none
  | _ => none

def ofStored? (mark : String) : DocValue → Option DocValue
  | .text s =>
    if mark = "$code" then some (.code s)
    else if mark = "$uuid" then none
    else Mark.ofText? mark s
  | .int32 n => if mark = "$date" then none else Mark.ofInt? mark n.toInt
  | .int64 n => Mark.ofInt? mark n.toInt
  | .bool b => if mark = "$undefined" && b then some .undefined else none
  | .binary 0 bs =>
    if mark = "$numberDecimalBytes" then Mark.decimalOfBytes? bs else none
  | .document body => ofStoredParts? mark body
  | _ => none

/-- A document, or the one value that its fields mark; a body that makes no sense stays. -/
def ofFields (fields : Document) : DocValue :=
  match fields with
  | [(mark, v)] => (ofStored? mark v).getD (.document fields)
  | [("$code", .text source), ("$scope", .document scope)]
  | [("$scope", .document scope), ("$code", .text source)] => .scopedCode source scope
  | _ => .document fields

mutual

/-- The value that is stored for a value; a decimal is stored as its text is read. -/
def stored : DocValue → DocValue
  | .document fields => ofFields (storedFields fields)
  | .array items => .array (storedItems items)
  | .scopedCode source scope =>
    ofFields [("$code", .text source), ("$scope", ofFields (storedFields scope))]
  | .decimal x => .decimal x.written
  | v => v

def storedItems : List DocValue → List DocValue
  | [] => []
  | v :: rest => stored v :: storedItems rest

def storedFields : List (String × DocValue) → List (String × DocValue)
  | [] => []
  | (n, v) :: rest => (n, stored v) :: storedFields rest

end

end DocValue

mutual

def Json.stored : Json → Except DocumentError DocValue
  | .null => .ok .null
  | .bool b => .ok (.bool b)
  | .int n => if n < 0x8000000000000000 then .ok (.int64 (Int64.ofInt n)) else .error .unwritable
  | .float x => .ok (.double x)
  | .text s => .ok (.text s)
  | .list items => .array <$> Json.storedItems items
  | .object fields => DocValue.ofFields <$> Json.storedFields fields

def Json.storedItems : List Json → Except DocumentError (List DocValue)
  | [] => .ok []
  | v :: rest => do
    let x ← Json.stored v
    let xs ← Json.storedItems rest
    return x :: xs

def Json.storedFields : List (String × Json) → Except DocumentError (List (String × DocValue))
  | [] => .ok []
  | (n, v) :: rest => do
    let x ← Json.stored v
    let xs ← Json.storedFields rest
    return (n, x) :: xs

end

def KeyPart.stored : KeyPart → Except DocumentError DocValue
  | .bool b => .ok (.bool b)
  | .int n => .ok (.int64 n)
  | .uint n =>
    if n.toNat < 0x8000000000000000 then .ok (.int64 (Int64.ofNat n.toNat))
    else
      .error (.other (.ofText
        ("key value " ++ toString n.toNat ++ " does not fit a stored int64")))
  | .float x => .ok (.double x)
  | .text s => .ok (.text s)
  | .bytes bs | .hashed bs => .ok (.binary 0 bs)
  | .json v => Json.stored v

end CacheAside
