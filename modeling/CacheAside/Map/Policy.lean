set_option autoImplicit false

namespace CacheAside

abbrev Nanos := Nat

def nanosPerSecond : Nat := 1000000000

/-- How a map makes room at its capacity; `never` does not enforce it. -/
inductive Eviction where
  | never
  | leastUsed
  deriving DecidableEq, Repr

inductive ValueForm where
  | object
  | binary
  deriving DecidableEq, Repr

/-- How many entries a map holds and how long they live: `ttl` from when an entry was written, `tti`
from when it was last used. -/
structure MapPolicy where
  capacity : Option Nat
  ttl : Option Nanos
  tti : Option Nanos
  eviction : Eviction
  form : ValueForm
  deriving DecidableEq, Repr

inductive PolicyFlaw where
  | ttlTooLong
  | ttiTooLong
  deriving DecidableEq, Repr

def PolicyFlaw.message : PolicyFlaw → String
  | .ttlTooLong => "time_to_live is longer than 1000 years"
  | .ttiTooLong => "time_to_idle is longer than 1000 years"

namespace MapPolicy

def standard : MapPolicy :=
  ⟨some 10000, some (300 * nanosPerSecond), none, .leastUsed, .object⟩

def ofCapacity (n : Nat) : MapPolicy :=
  { standard with capacity := some n }

/-- For maps that are filled in bulk: what was loaded first is still there at the end. -/
def bulk : MapPolicy :=
  ⟨none, none, none, .never, .object⟩

def enforcedCapacity (p : MapPolicy) : Option Nat :=
  match p.eviction with
  | .never => none
  | .leastUsed => p.capacity

/-- The longest life of an entry: a thousand years of 365 days. -/
def longestLife : Nanos :=
  31536000000 * nanosPerSecond

def exceeds (life : Option Nanos) : Bool :=
  life.any (longestLife < ·)

/-- The first limit that a policy breaks. -/
def flaw? (p : MapPolicy) : Option PolicyFlaw :=
  if exceeds p.ttl then some .ttlTooLong
  else if exceeds p.tti then some .ttiTooLong
  else none

def retains (p : MapPolicy) : Bool :=
  p.enforcedCapacity != some 0 && p.ttl != some 0 && p.tti != some 0

theorem bulk_retains : bulk.retains = true := rfl

theorem bulk_flaw? : bulk.flaw? = none := rfl

end MapPolicy

end CacheAside
