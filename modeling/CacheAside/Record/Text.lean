import CacheAside.Document.Extended
import CacheAside.Document.Text
import CacheAside.Json.Skip
import CacheAside.Record.Basic

set_option autoImplicit false

namespace CacheAside.Record

/-- The JSON form; the stamp is left out. -/
def json (r : Record) : Json :=
  .object <|
    (r.id.map fun i => ("_id", DocValue.markedId i)).toList
    ++ [("namespace", .text r.space), ("record_id", .text r.name), ("body", r.body.plain),
      ("updated_at", .text r.updatedAt.text)]

structure Draft where
  id : Option (Option ObjectId)
  space : Option String
  name : Option String
  body : Option Document
  updatedAt : Option Instant

namespace Draft

def empty : Draft := ⟨none, none, none, none, none⟩

def finish (d : Draft) : Except ReadError Record := do
  let space ← Reader.required "namespace" d.space
  let name ← Reader.required "record_id" d.name
  let updatedAt ← Reader.required "updated_at" d.updatedAt
  return { id := d.id.join, space, name, body := d.body.getD [], updatedAt, stamp := none }

end Draft

def fieldNames : List String :=
  ["_id", "namespace", "record_id", "body", "updated_at"]

def instantIn (v : Json) : Option Instant :=
  DocValue.textIn v >>= Instant.parse?

def idIn : Json → Option (Option ObjectId)
  | .null => some none
  | .text s => (ObjectId.ofHex? s).map some
  | _ => none

def readId (depth : Nat) : Reader (Option ObjectId) := fun cs =>
  match Json.skipBlanks cs with
  | '\x7b' :: _ => do
    match ← DocValue.readPlain depth cs with
    | (.objectId i, cs) => return (some i, cs)
    | _ => .error .malformed
  | cs => Reader.value 0 idIn cs

def innerDepth : Nat :=
  Json.depthLimit - 2

def readField (d : Draft) (name : String) : Reader Draft := fun cs =>
  match name with
  | "_id" => do
    let (id, cs) ← Reader.once name d.id (readId innerDepth) cs
    return ({ d with id }, cs)
  | "namespace" => do
    let (space, cs) ← Reader.once name d.space (Reader.value 0 DocValue.textIn) cs
    return ({ d with space }, cs)
  | "record_id" => do
    let (name, cs) ← Reader.once name d.name (Reader.value 0 DocValue.textIn) cs
    return ({ d with name }, cs)
  | "body" => do
    let (body, cs) ← Reader.once name d.body (Document.readPlain innerDepth) cs
    return ({ d with body }, cs)
  | "updated_at" => do
    let (updatedAt, cs) ← Reader.once name d.updatedAt (Reader.value 0 instantIn) cs
    return ({ d with updatedAt }, cs)
  | _ => do
    let cs ← Reader.ofOption (Json.skipFront cs)
    return (d, cs)

def readFront : Reader Record := fun cs => do
  let (d, cs) ← Reader.named fieldNames readField .empty cs
  return (← d.finish, cs)

def parse (s : String) : Except ReadError Record := do
  let (r, rest) ← readFront s.toList
  if (Json.skipBlanks rest).isEmpty then return r else .error .malformed

end CacheAside.Record
