import CacheAside.Document.Retrieved
import CacheAside.Entity

set_option autoImplicit false

namespace CacheAside

structure Record where
  id : Option ObjectId
  space : String
  name : String
  body : Document
  updatedAt : Instant
  stamp : Option Key
  deriving Repr

namespace Record

def keyFields : List String :=
  ["namespace", "record_id"]

def keyParts (space name : String) : List KeyPart :=
  [.text space, .text name]

instance : Entity Record where
  kind := "Record"
  parts r := keyParts r.space r.name
  stamped? r := r.stamp
  stamp k r := { r with stamp := some k }

instance : LawfulEntity Record where
  parts_stamp _ _ := rfl
  stamped?_stamp _ _ := rfl
  stamp_stamp _ _ _ := rfl
  stamp_self k r h := by
    cases r
    simp only [Entity.stamped?] at h
    simp [Entity.stamp, h]

def same (a b : Record) : Bool :=
  a.id == b.id && a.space == b.space && a.name == b.name && a.body.same b.body
    && a.updatedAt == b.updatedAt && a.stamp == b.stamp

def document (r : Record) : Document :=
  (r.id.map fun i => ("_id", DocValue.objectId i)).toList
  ++ [("namespace", .text r.space), ("record_id", .text r.name),
    ("body", (DocValue.document r.body).stored), ("updated_at", .text r.updatedAt.text)]

/-- The id in a stored document; it may be missing, null, in digits, or bytes of no kind. -/
def idOf : Option DocValue → Except ReadError (Option ObjectId)
  | none | some .null => .ok none
  | some (.text s) => Reader.ofOption ((ObjectId.ofHex? s).map some)
  | some (.binary 0 bs) => Reader.ofOption ((ObjectId.ofBytes? bs).map some)
  | some v => do
    match ← v.retrieved with
    | .objectId i => return some i
    | _ => .error .malformed

def bodyOf : Option DocValue → Except ReadError Document
  | none => .ok []
  | some v => do Reader.ofOption (← v.retrieved).document?

def instantOf : DocValue → Except ReadError Instant
  | .text s => Reader.ofOption (Instant.parse? s)
  | _ => .error .malformed

/-- Reads the stored form; other fields of the document are of no matter. What is there is read
before anything missing is reported. -/
def ofDocument (d : Document) : Except ReadError Record := do
  let id ← idOf (d.get? "_id")
  let space ← (d.get? "namespace").mapM fun v => Reader.ofOption v.text?
  let name ← (d.get? "record_id").mapM fun v => Reader.ofOption v.text?
  let body ← bodyOf (d.get? "body")
  let updatedAt ← (d.get? "updated_at").mapM instantOf
  return {
    id
    space := ← Reader.required "namespace" space
    name := ← Reader.required "record_id" name
    body
    updatedAt := ← Reader.required "updated_at" updatedAt
    stamp := none }

instance : Stored Record where
  document := document
  ofDocument := ofDocument

end Record

end CacheAside
