import CacheAside.Document.Collection
import CacheAside.Document.Stored
import CacheAside.Store.Rows
/-!
A store of entities as documents of a collection. A document holds the fields of its entity and,
behind them, the token of its key; it is found by the fields of the primary key.
-/

set_option autoImplicit false

namespace CacheAside

def tokenField : String := "_token"

/-- A collection whose documents are found by key fields, listed in key order. -/
structure DocumentStore (C : Type) where
  keyFields : List String
  collection : C

namespace DocumentStore

variable {C E σ : Type}

def filterOf : List String → List KeyPart → Document → Except DocumentError Document
  | name :: names, p :: parts, filter => do
    let v ← KeyPart.stored p
    filterOf names parts (filter.put name v)
  | _, _, filter => .ok filter

def keyFilter (E : Type) [Entity E] (s : DocumentStore C) (parts : List KeyPart) :
    Except DocumentError Document :=
  if parts.length ≠ s.keyFields.length then
    .error (.other (.ofText (Entity.kind E ++ " expects " ++ toString s.keyFields.length
      ++ " key values, got " ++ toString parts.length)))
  else filterOf s.keyFields parts []

def readRow [Stored E] (d : Document) : Except DocumentError E :=
  match Stored.ofDocument d with
  | .ok e => .ok e
  | .error _ => .error .unreadable

/-- Hands the entities of documents to a consumer until one cannot be read or is refused. -/
def stream [Stored E] (accept : Consumer σ E) :
    List Document → Nat → σ → Except DocumentError Nat × σ
  | [], done, c => (.ok done, c)
  | d :: rest, done, c =>
    match readRow d with
    | .error err => (.error err, c)
    | .ok e =>
      match accept c e with
      | (.error f, c) => (.error (.other f), c)
      | (.ok (), c) => stream accept rest (done + 1) c

def load [Documents C] [Stored E] (s : DocumentStore C) (start stop : Int64) (accept : Consumer σ E)
    (c : σ) : Except DocumentError Nat × σ :=
  stream accept (Documents.scan s.collection tokenField start stop) 0 c

variable [Entity E] [Stored E]

def find [Documents C] (s : DocumentStore C) (parts : List KeyPart) :
    Except DocumentError (Option E) := do
  let filter ← s.keyFilter E parts
  match Documents.find? s.collection filter with
  | some d => some <$> readRow d
  | none => return none

def keyOf (e : E) : Except DocumentError Key :=
  match Entity.key e with
  | .ok k => .ok k
  | .error err =>
    .error (.other ((Fault.ofText err.message).within ("can't derive token for " ++ Entity.kind E)))

def rowOf (s : DocumentStore C) (e : E) : Except DocumentError (Document × Document) := do
  let k ← keyOf e
  let filter ← s.keyFilter E (Entity.parts e)
  return (filter, (Stored.document e).put tokenField (.int64 k.token))

variable [Documents C]

/-- Writes an entity over the document of its key fields, or as a new one, and tells whether it is
there. -/
def save (s : DocumentStore C) (e : E) : Except DocumentError Bool × DocumentStore C :=
  match s.rowOf e with
  | .ok (filter, d) =>
    let (r, c) := Documents.replaceOrInsert s.collection filter d
    (.ok (0 < r.matched || r.upserted.isSome), { s with collection := c })
  | .error err => (.error err, s)

omit [Stored E] in
def remove (s : DocumentStore C) (e : E) : Except DocumentError Bool × DocumentStore C :=
  match s.keyFilter E (Entity.parts e) with
  | .ok filter =>
    let (deleted, c) := Documents.deleteFirst s.collection filter
    (.ok (0 < deleted), { s with collection := c })
  | .error err => (.error err, s)

end DocumentStore

inductive Server where
  | down
  | up (collection : Collection)

def Server.connect : Server → Except DocumentError Collection
  | .down => .error .server
  | .up c => .ok c

end CacheAside
