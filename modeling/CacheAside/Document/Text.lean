import CacheAside.Document.Mark
import CacheAside.Json.Fields
import CacheAside.Json.Raw
/-!
Documents read from JSON text in their plain form. A marked field stands for its whole object:
fields before it are dropped, and none may follow it, but that code may have a scope, on either
side. What is wrong is reported as soon as it is met.
-/

set_option autoImplicit false

namespace CacheAside

namespace Mark

abbrev Parts : Type := List (String × Json)

abbrev PartReader : Type := String × (Nat → Reader Json)

def readPart (depth : Nat) : List PartReader → Parts → String → Reader Parts
  | [], _, _, _ => .error .malformed
  | (n, read) :: rest, done, name, cs =>
    if n = name then
      if (Table.lookup name done).isSome then .error (.duplicateField name)
      else do
        let (v, cs) ← read depth cs
        return ((name, v) :: done, cs)
    else readPart depth rest done name cs

def readBody (parts : List PartReader) : Nat → Reader Json
  | 0, _ => .error .malformed
  | depth + 1, cs => do
    let (done, cs) ← Reader.named (parts.map (·.1)) (readPart depth parts) [] cs
    let vs ← parts.mapM fun p => Reader.required p.1 (Table.lookup p.1 done)
    return (.list vs, cs)

def PartKind.read : PartKind → Nat → Reader Json
  | .text => fun _ => Reader.value 0 textOnly
  | .word => fun _ => Reader.value 0 wordOnly
  | .id => readBody [("$oid", fun _ => Reader.value 0 textOnly)]

def readBehind (mark : String) (depth : Nat) : Reader Json :=
  match partsOf mark with
  | [] => Reader.value depth some
  | parts => readBody (parts.map fun p => (p.1, p.2.read)) depth

def readValue (mark : String) (depth : Nat) : Reader DocValue := fun cs => do
  let (body, cs) ← readBehind mark depth cs
  let v ← Reader.ofOption (value? mark body)
  return (v, cs)

def readDecimalBytes (depth : Nat) : Reader DocValue := fun cs =>
  match Json.skipBlanks cs with
  | '"' :: rest => do
    let (bs, rest) ← Reader.ofOption (Json.readRaw rest)
    let v ← Reader.ofOption (decimalOfBytes? bs)
    return (v, rest)
  | rest => Reader.value depth (fun v => bytesIn? v >>= decimalOfBytes?) rest

end Mark

namespace DocValue

/-- An object of which some fields have been read; no field may follow a `whole` value. -/
inductive Draft where
  | fields (done : Document)
  | code (source : String)
  | scope (scope : Document)
  | whole (value : DocValue)

def Draft.finish : Draft → Except ReadError DocValue
  | .fields done => .ok (.document done)
  | .code source => .ok (.code source)
  | .scope _ => .error (.missingField "$code")
  | .whole v => .ok v

def textIn : Json → Option String
  | .text s => some s
  | _ => none

/-- Negative integers are wide, others as wide as they have to be; beyond the wider width they are
refused. -/
def ofScalar? : Json → Option DocValue
  | .null => some .null
  | .bool b => some (.bool b)
  | .int n =>
    if n < 0 then some (.int64 (Int64.ofInt n))
    else if n < 0x80000000 then some (.int32 (Int32.ofInt n))
    else if n < 0x8000000000000000 then some (.int64 (Int64.ofInt n))
    else none
  | .float x => some (.double x)
  | .text s => some (.text s)
  | _ => none

def documentBy (read : Reader DocValue) : Reader Document := fun cs =>
  match Json.skipBlanks cs with
  | '\x7b' :: _ => do
    match ← read cs with
    | (.document d, cs) => return (d, cs)
    | _ => .error .malformed
  | _ => .error .malformed

def addField (depth : Nat) (read : Reader DocValue) (d : Draft) (name : String) : Reader Draft :=
  fun cs =>
    match d, name with
    | .fields _, "$code" => do
      let (source, cs) ← Reader.value 0 textIn cs
      return (.code source, cs)
    | .fields _, "$scope" => do
      let (scope, cs) ← documentBy read cs
      return (.scope scope, cs)
    | .fields _, "$numberDecimalBytes" => do
      let (v, cs) ← Mark.readDecimalBytes depth cs
      return (.whole v, cs)
    | .fields done, name =>
      if name ∈ Mark.single then do
        let (v, cs) ← Mark.readValue name depth cs
        return (.whole v, cs)
      else do
        let (v, cs) ← read cs
        return (.fields (done.put name v), cs)
    | .code source, "$scope" => do
      let (scope, cs) ← documentBy read cs
      return (.whole (.scopedCode source scope), cs)
    | .scope scope, "$code" => do
      let (source, cs) ← Reader.value 0 textIn cs
      return (.whole (.scopedCode source scope), cs)
    | _, _ => .error .malformed

/-- A value with at most `depth` brackets open at once. -/
def readPlain : Nat → Reader DocValue
  | 0, cs => Reader.value 0 ofScalar? cs
  | depth + 1, cs =>
    match Json.skipBlanks cs with
    | '[' :: rest => do
      let (vs, rest) ← Reader.array (readPlain depth) rest
      return (.array vs, rest)
    | '\x7b' :: rest => do
      let (d, rest) ← Reader.object (addField depth (readPlain depth)) (.fields []) rest
      return (← d.finish, rest)
    | rest => Reader.value 0 ofScalar? rest

end DocValue

def Document.readPlain (depth : Nat) : Reader Document :=
  DocValue.documentBy (DocValue.readPlain depth)

end CacheAside
