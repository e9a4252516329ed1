import CacheAside.Document.Value

set_option autoImplicit false

namespace CacheAside

namespace Document

def meets (d filter : Document) : Bool :=
  filter.all fun (name, v) =>
    match d.get? name with
    | some w => w.alike v
    | none => false

/-- Whether a field of the document is a wide integer from `start` on and below `stop`. -/
def within (d : Document) (name : String) (start stop : Int64) : Bool :=
  match d.get? name with
  | some (.int64 n) => start ≤ n && n < stop
  | _ => false

/-- The id field behind all others. -/
def withId (d : Document) (id : DocValue) : Document :=
  (d.erase "_id").put "_id" id

end Document

/-- What a replacement reports: how many documents met the filter, and the id of a new one. -/
structure Replaced where
  matched : Nat
  upserted : Option DocValue

/-- The commands of a collection. A replacement inserts its document if none meets the filter, and a
deletion reports how many it deleted. -/
class Documents (C : Type) where
  find? : C → Document → Option Document
  scan : C → String → Int64 → Int64 → List Document
  replaceOrInsert : C → Document → Document → Replaced × C
  deleteFirst : C → Document → Nat × C

structure Collection where
  documents : List Document
  named : Nat

namespace Collection

def empty : Collection :=
  ⟨[], 0⟩

def find? (c : Collection) (filter : Document) : Option Document :=
  c.documents.find? (·.meets filter)

def scan (c : Collection) (name : String) (start stop : Int64) : List Document :=
  c.documents.filter (·.within name start stop)

def insert (c : Collection) (d : Document) : DocValue × Collection :=
  match d.get? "_id" with
  | some id => (id, { c with documents := c.documents ++ [d] })
  | none =>
    let id := .objectId (.ofNat (c.named + 1))
    (id, ⟨c.documents ++ [d.withId id], c.named + 1⟩)

def renew (old new : Document) : Document :=
  match old.get? "_id" with
  | some id => new.withId id
  | none => new

def replaceFirst (filter new : Document) : List Document → Option (List Document)
  | [] => none
  | d :: rest =>
    if d.meets filter then some (renew d new :: rest)
    else (d :: ·) <$> replaceFirst filter new rest

def replaceOrInsert (c : Collection) (filter new : Document) : Replaced × Collection :=
  match replaceFirst filter new c.documents with
  | some ds => (⟨1, none⟩, { c with documents := ds })
  | none =>
    let (id, c) := c.insert new
    (⟨0, some id⟩, c)

def deleteFirst (c : Collection) (filter : Document) : Nat × Collection :=
  (if (c.find? filter).isSome then 1 else 0,
    { c with documents := c.documents.eraseP (·.meets filter) })

instance : Documents Collection :=
  ⟨find?, scan, replaceOrInsert, deleteFirst⟩

end Collection

end CacheAside
