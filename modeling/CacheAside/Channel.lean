import CacheAside.Fault
import CacheAside.Table
/-!
Channels that carry one result. The write side is shared by any number of handles, of which the
first to resolve decides; the read side is polled. When no handle is left and none has resolved,
the reader learns that the work was abandoned.
-/

set_option autoImplicit false

namespace CacheAside

abbrev Result (α : Type) : Type :=
  Except AccessError α

/-- The shared state of a channel: what the first resolving call passed, how many handles of the
write side are left, and whether the read side is there and has not given its result yet. -/
structure Channel (α : Type) where
  resolution? : Option (Result α)
  writers : Nat
  reading : Bool

namespace Channel

variable {α : Type}

def opened : Channel α :=
  ⟨none, 1, true⟩

def isResolved (c : Channel α) : Bool :=
  c.resolution?.isSome

/-- Resolves a channel, also one whose reader is gone; false if it was resolved before. -/
def resolve (c : Channel α) (r : Result α) : Bool × Channel α :=
  if c.isResolved then (false, c) else (true, { c with resolution? := some r })

def outcome? (c : Channel α) : Option (Result α) :=
  match c.resolution? with
  | some r => some r
  | none => if c.writers = 0 then some (.error .abandoned) else none

def addWriter (c : Channel α) : Channel α :=
  { c with writers := c.writers + 1 }

def dropWriter (c : Channel α) : Channel α :=
  { c with writers := c.writers - 1 }

def dropReader (c : Channel α) : Channel α :=
  { c with reading := false }

end Channel

/-- What a handle on the write side may do: resolve at will, or once with a value or an error. -/
inductive WriterRole where
  | completer
  | onSuccess
  | onFailure
  deriving DecidableEq, Repr

/-- Channels by number, and the handles on their write sides by role and name. -/
structure Switchboard (α : Type) where
  channels : List (Channel α)
  writers : Table (WriterRole × String) Nat

inductive Polled (α : Type) where
  | waiting
  | ready (result : Result α)
  | gone

namespace Switchboard

variable {α : Type}

def empty : Switchboard α :=
  ⟨[], ∅⟩

def modify (b : Switchboard α) (i : Nat) (f : Channel α → Channel α) : Switchboard α :=
  { b with channels := b.channels.modify i f }

def dropHandle (b : Switchboard α) (role : WriterRole) (name : String) : Switchboard α :=
  match b.writers.get? (role, name) with
  | none => b
  | some i => { b.modify i Channel.dropWriter with writers := b.writers.erase (role, name) }

def addHandle (b : Switchboard α) (role : WriterRole) (name : String) (i : Nat) : Switchboard α :=
  let b := (b.modify i Channel.addWriter).dropHandle role name
  { b with writers := b.writers.insert (role, name) i }

def openChannel (b : Switchboard α) (name : String) : Nat × Switchboard α :=
  let i := b.channels.length
  let b := { b with channels := b.channels ++ [{ Channel.opened with writers := 0 }] }
  (i, b.addHandle .completer name i)

/-- A new channel that a task resolves: at once with its result, or never. A task that crashed
has dropped its handle; one that hangs keeps it. -/
def openTask (b : Switchboard α) (resolution? : Option (Result α)) (hangs : Bool) :
    Nat × Switchboard α :=
  (b.channels.length,
    { b with channels := b.channels ++ [⟨resolution?, if hangs then 1 else 0, true⟩] })

def completerOf (b : Switchboard α) (name : String) : Option Nat :=
  b.writers.get? (.completer, name)

def complete (b : Switchboard α) (name : String) (r : Result α) :
    Option (Bool × Switchboard α) := do
  let i ← b.completerOf name
  let c ← b.channels[i]?
  let (first, c) := c.resolve r
  return (first, b.modify i fun _ => c)

def succeed (b : Switchboard α) (name : String) (value : α) : Option (Bool × Switchboard α) :=
  b.complete name (.ok value)

def fail (b : Switchboard α) (name : String) (err : AccessError) :
    Option (Bool × Switchboard α) :=
  b.complete name (.error err)

def isResolved (b : Switchboard α) (name : String) : Option Bool := do
  let i ← b.completerOf name
  let c ← b.channels[i]?
  return c.isResolved

def clone (b : Switchboard α) (name copy : String) : Option (Switchboard α) :=
  (b.completerOf name).map (b.addHandle .completer copy)

def intoCallbacks (b : Switchboard α) (name onSuccess onFailure : String) :
    Option (Switchboard α) :=
  (b.completerOf name).map fun i =>
    let b := (b.addHandle .onSuccess onSuccess i).addHandle .onFailure onFailure i
    b.dropHandle .completer name

def call (b : Switchboard α) (role : WriterRole) (name : String) (r : Result α) :
    Option (Bool × Switchboard α) := do
  let i ← b.writers.get? (role, name)
  let c ← b.channels[i]?
  let (first, c) := c.resolve r
  return (first, (b.modify i fun _ => c).dropHandle role name)

def dropNamed (b : Switchboard α) (name : String) : Bool × Switchboard α :=
  let roles := [WriterRole.completer, .onSuccess, .onFailure]
  (roles.any fun r => b.writers.contains (r, name),
    roles.foldl (fun b r => b.dropHandle r name) b)

def poll (b : Switchboard α) (i : Nat) : Polled α × Switchboard α :=
  match b.channels[i]? with
  | none => (.gone, b)
  | some c =>
    if c.reading then
      match c.outcome? with
      | none => (.waiting, b)
      | some r => (.ready r, b.modify i Channel.dropReader)
    else (.gone, b)

def isReading (b : Switchboard α) (i : Nat) : Bool :=
  b.channels[i]?.any (·.reading)

def dropReader (b : Switchboard α) (i : Nat) : Bool × Switchboard α :=
  (b.isReading i, b.modify i Channel.dropReader)

end Switchboard

def pendingDescription : String := "Pending \x7b .. \x7d"

end CacheAside
