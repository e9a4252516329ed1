import CacheAside.Entity
import CacheAside.Fault
import CacheAside.Span
import CacheAside.Table

set_option autoImplicit false

namespace CacheAside

structure CallCounts where
  finds : Nat
  saves : Nat
  removes : Nat
  loads : Nat
  deriving DecidableEq, Repr

structure RowStore (E : Type) where
  rows : Table Key E
  calls : CallCounts

def Consumer (σ E : Type) : Type :=
  σ → E → Except Fault Unit × σ

namespace RowStore

variable {E σ : Type}

def empty : RowStore E :=
  ⟨∅, ⟨0, 0, 0, 0⟩⟩

def size (s : RowStore E) : Nat :=
  s.rows.size

def isEmpty (s : RowStore E) : Bool :=
  s.rows.entries.isEmpty

def rowsIn (s : RowStore E) (start stop : Int64) : List E :=
  (s.rows.entries.filter fun r => start ≤ r.1.token && r.1.token < stop).map Prod.snd

/-- Hands rows to a consumer until it refuses one; `done` counts the accepted ones. -/
def stream (accept : Consumer σ E) : List E → Nat → σ → Except Fault Nat × σ
  | [], done, c => (.ok done, c)
  | e :: rest, done, c =>
    match accept c e with
    | (.error f, c) => (.error f, c)
    | (.ok (), c) => stream accept rest (done + 1) c

def countLoad (s : RowStore E) : RowStore E :=
  { s with calls := { s.calls with loads := s.calls.loads + 1 } }

def load (s : RowStore E) (start stop : Int64) (accept : Consumer σ E) (c : σ) :
    (Except Fault Nat × σ) × RowStore E :=
  (stream accept (s.rowsIn start stop) 0 c, s.countLoad)

variable [Entity E]

def keyOf (e : E) : Except Fault Key :=
  match Entity.key e with
  | .ok k => .ok k
  | .error err =>
    .error ((Fault.ofText err.message).within ("can't derive store key for " ++ Entity.kind E))

/-- Writes rows past the call counts, up to the first without a key. -/
def seed (s : RowStore E) : List E → Except Fault Unit × RowStore E
  | [] => (.ok (), s)
  | e :: rest =>
    match keyOf e with
    | .error f => (.error f, s)
    | .ok k => seed { s with rows := s.rows.insert k e } rest

omit [Entity E] in
def peek (s : RowStore E) (parts : List KeyPart) : Except Fault (Option E) :=
  match Key.derive parts with
  | .ok k => .ok (s.rows.get? k)
  | .error err => .error ((Fault.ofText err.message).within "can't derive store key")

omit [Entity E] in
def find (s : RowStore E) (parts : List KeyPart) : Except Fault (Option E) × RowStore E :=
  (s.peek parts, { s with calls := { s.calls with finds := s.calls.finds + 1 } })

def save (s : RowStore E) (e : E) : Except Fault Bool × RowStore E :=
  let s := { s with calls := { s.calls with saves := s.calls.saves + 1 } }
  match keyOf e with
  | .error f => (.error f, s)
  | .ok k => (.ok true, { s with rows := s.rows.insert k e })

def remove (s : RowStore E) (e : E) : Except Fault Bool × RowStore E :=
  let s := { s with calls := { s.calls with removes := s.calls.removes + 1 } }
  match keyOf e with
  | .error f => (.error f, s)
  | .ok k => (.ok (s.rows.contains k), { s with rows := s.rows.erase k })

end RowStore

end CacheAside
