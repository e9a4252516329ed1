import CacheAside.Access.Call
import CacheAside.Channel
import CacheAside.Map.EntryMap
import CacheAside.Meter
import CacheAside.Store.Rows
/-!
Work in progress on the two tiers, one call at a time. Reads go to the grid first and to the store
on a miss; what the store had is put back into the grid on the side, unless an entry is there by
then. Writes go to the grid first and to the store only if the grid took them; the listener hears
of a write once the store has applied it. Loading reads the rows of a span and puts each of them
into the grid.
-/

set_option autoImplicit false

namespace CacheAside

inductive EntryEvent where
  | saved
  | removed
  deriving DecidableEq, Repr

/-- Work, named for the call it makes next: `notify` tells the listener what the work of number
`origin` did, and `feed` puts the rows that are left after `count` others. -/
inductive Work (E Out : Type) where
  | readGrid (key : Key) (parts : List KeyPart)
  | readStore (key : Key) (parts : List KeyPart)
  | refill (key : Key) (entity : E)
  | saveGrid (key : Key) (entity : E)
  | saveStore (key : Key) (entity : E)
  | removeGrid (key : Key) (entity : E)
  | removeStore (key : Key) (entity : E)
  | execute (key : Key) (processor : Processor E Out)
  | notify (origin : Nat) (event : EntryEvent) (entity : E)
  | scan (span : Span)
  | feed (span : Span) (rest : List E) (count : Nat)

inductive Answer (E Out : Type) where
  | entity (found : Option E)
  | applied (yes : Bool)
  | output (out : Out)
  | loaded (ending : Ending Fault Nat)
  | nothing

structure Notice (E : Type) where
  origin : Nat
  event : EntryEvent
  entity : E

inductive Progress (E Out : Type) where
  | next (work : Work E Out)
  | done (result : Result (Answer E Out))

/-- What one call does: the tiers after it, what is measured, what the listener hears, work that
starts on the side, and how the work goes on. -/
structure Move (E Out : Type) where
  map : EntryMap E
  store : RowStore E
  progress : Progress E Out
  signals : List Signal
  spawned : List (Work E Out)
  heard : Option (Notice E)

namespace Work

variable {E Out : Type}

def point : Work E Out → CallPoint
  | .readGrid .. => .gridGet
  | .readStore .. => .storeFind
  | .refill .. => .gridSubmit
  | .saveGrid .. => .gridSubmit
  | .saveStore .. => .storeSave
  | .removeGrid .. => .gridRemove
  | .removeStore .. => .storeRemove
  | .execute .. => .gridSubmit
  | .notify .. => .listener
  | .scan _ => .storeLoad
  | .feed _ (_ :: _) _ => .gridPut
  | .feed _ [] _ => .storeLoad

/-- What a served or answered read gives; `none` when the call failed or crashed. -/
def readAnswer {α : Type} (served : Option E → α) (real : α) : Conduct E → Option α
  | .serve | .refuse => some real
  | .answer found => some (served found)
  | .fail _ | .crash _ => none

def failure (tier : Tier) : Conduct E → Option AccessError
  | .fail f => some (.tier tier f)
  | .crash _ => some .abandoned
  | _ => none

variable [Entity E]

def stampedRow (e : E) : Except Fault (Key × E) :=
  match Entity.stamped? e with
  | some k => .ok (k, e)
  | none =>
    match Key.derive (Entity.parts e) with
    | .ok k => .ok (k, Entity.stamp k e)
    | .error err =>
      .error ((Fault.ofText err.message).within ("can't build cache key for " ++ Entity.kind E))

def afterStoreRead (map : EntryMap E) (key : Key) :
    Except Fault (Option E) × RowStore E → Move E Out
  | (.error f, store) => ⟨map, store, .done (.error (.tier .store f)), [.find], [], none⟩
  | (.ok none, store) => ⟨map, store, .done (.ok (.entity none)), [.find], [], none⟩
  | (.ok (some e), store) =>
    let e := Entity.stamp key e
    ⟨map, store, .done (.ok (.entity (some e))), [.find], [.refill key e], none⟩

def afterStoreWrite (map : EntryMap E) (number : Nat) (listening : Bool) (event : EntryEvent)
    (signal : Signal) (e : E) : Except Fault Bool × RowStore E → Move E Out
  | (.error f, store) => ⟨map, store, .done (.error (.tier .store f)), [signal], [], none⟩
  | (.ok applied, store) =>
    ⟨map, store, .done (.ok (.applied applied)), [signal],
      if applied && listening then [.notify number event e] else [], none⟩

/-- Makes the next call. `number` names the work and `listening` tells whether there is a
listener. -/
def advance (number : Nat) (listening : Bool) (map : EntryMap E) (store : RowStore E)
    (conduct : Conduct E) : Work E Out → Move E Out
  | .readGrid key parts =>
    match readAnswer id (map.get? key) conduct with
    | some (some e) =>
      ⟨map, store, .done (.ok (.entity (some e))), [.gridGet, .hit, .find], [], none⟩
    | _ => ⟨map, store, .next (.readStore key parts), [.gridGet], [], none⟩
  | .readStore key parts =>
    match failure .store conduct with
    | some err => ⟨map, store, .done (.error err), [.find], [], none⟩
    | none =>
      match conduct with
      | .answer found => afterStoreRead map key (.ok found, store)
      | _ => afterStoreRead map key (store.find parts)
  | .refill key e =>
    match failure .grid conduct with
    | some _ => ⟨map, store, .done (.ok .nothing), [.putAsync], [], none⟩
    | none =>
      ⟨(map.submit key (.insertIfAbsent e)).2, store, .done (.ok .nothing), [.putAsync], [], none⟩
  | .saveGrid key e =>
    match failure .grid conduct with
    | some err => ⟨map, store, .done (.error err), [.putAsync, .save], [], none⟩
    | none =>
      ⟨(map.submit key (.replace e)).2, store, .next (.saveStore key e), [.putAsync], [], none⟩
  | .saveStore _ e =>
    match failure .store conduct with
    | some err => ⟨map, store, .done (.error err), [.save], [], none⟩
    | none =>
      match conduct with
      | .refuse => afterStoreWrite map number listening .saved .save e (.ok false, store)
      | _ => afterStoreWrite map number listening .saved .save e (store.save e)
  | .removeGrid key e =>
    match failure .grid conduct with
    | some err => ⟨map, store, .done (.error err), [.remove], [], none⟩
    | none => ⟨(map.remove key).2, store, .next (.removeStore key e), [], [], none⟩
  | .removeStore _ e =>
    match failure .store conduct with
    | some err => ⟨map, store, .done (.error err), [.remove], [], none⟩
    | none =>
      match conduct with
      | .refuse => afterStoreWrite map number listening .removed .remove e (.ok false, store)
      | _ => afterStoreWrite map number listening .removed .remove e (store.remove e)
  | .execute key p =>
    match failure .grid conduct with
    | some err => ⟨map, store, .done (.error err), [], [], none⟩
    | none =>
      match map.submit key p with
      | (.ok out, map) => ⟨map, store, .done (.ok (.output out)), [], [], none⟩
      | (.error _, map) => ⟨map, store, .done (.error .abandoned), [], [], none⟩
  | .notify origin event e =>
    ⟨map, store, .done (.ok .nothing), [], [], some ⟨origin, event, e⟩⟩
  | .scan span =>
    match conduct with
    | .fail f => ⟨map, store, .done (.ok (.loaded (.error f))), [], [], none⟩
    | .crash text => ⟨map, store, .done (.ok (.loaded (.crash text))), [], [], none⟩
    | _ =>
      ⟨map, store.countLoad, .next (.feed span (store.rowsIn span.start span.stop) 0), [], [],
        none⟩
  | .feed span rest count =>
    match conduct, rest with
    | .fail f, _ => ⟨map, store, .done (.ok (.loaded (.error f))), [], [], none⟩
    | .crash text, _ => ⟨map, store, .done (.ok (.loaded (.crash text))), [], [], none⟩
    | _, [] => ⟨map, store, .done (.ok (.loaded (.value count))), [], [], none⟩
    | _, e :: rest =>
      match stampedRow e with
      | .error f => ⟨map, store, .done (.ok (.loaded (.error f))), [], [], none⟩
      | .ok (key, e) => ⟨map.put key e, store, .next (.feed span rest (count + 1)), [], [], none⟩

end Work

end CacheAside
