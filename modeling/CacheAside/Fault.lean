import CacheAside.Key.Part
/-!
What can go wrong. A fault is a cause under the contexts that were added to it on the way out; a
crash is kept apart from faults. Callers of the cache see an `AccessError`, which says which tier
a fault came from.
-/

set_option autoImplicit false

namespace CacheAside

/-- A fault with its contexts, the outermost first; `causes` is empty for a bare fault. -/
structure Fault where
  outermost : String
  causes : List String
  deriving DecidableEq, Repr, Inhabited

namespace Fault

def ofText (cause : String) : Fault :=
  ⟨cause, []⟩

def within (f : Fault) (context : String) : Fault :=
  ⟨context, f.outermost :: f.causes⟩

def chain (f : Fault) : List String :=
  f.outermost :: f.causes

def oneLine (f : Fault) : String :=
  ": ".intercalate f.chain

def ofRoot (root : String) (contexts : List String) : Fault :=
  contexts.foldl within (ofText root)

end Fault

/-- How a computation ends: with a value, with an error, or by a crash with its text. -/
inductive Ending (ε α : Type) where
  | value (result : α)
  | error (error : ε)
  | crash (text : String)
  deriving DecidableEq, Repr

namespace Ending

variable {ε α β : Type}

def map (f : α → β) : Ending ε α → Ending ε β
  | .value a => .value (f a)
  | .error e => .error e
  | .crash t => .crash t

def ofExcept : Except ε α → Ending ε α
  | .ok a => .value a
  | .error e => .error e

end Ending

inductive Tier where
  | grid
  | store
  deriving DecidableEq, Repr

inductive AccessError where
  | keyDerivation (entity : String) (cause : String)
  | tier (tier : Tier) (fault : Fault)
  | abandoned
  deriving DecidableEq, Repr

namespace AccessError

def message : AccessError → String
  | .keyDerivation entity _ => "can't build cache key for entity " ++ "\x60" ++ entity ++ "\x60"
  | .tier .grid f => "cache grid operation failed: " ++ f.outermost
  | .tier .store f => "store operation failed: " ++ f.outermost
  | .abandoned => "operation was abandoned before completing"

def sources : AccessError → List String
  | .keyDerivation _ cause => [cause]
  | .tier _ f => f.chain
  | .abandoned => []

def isGrid : AccessError → Bool
  | .tier .grid _ => true
  | _ => false

def isStore : AccessError → Bool
  | .tier .store _ => true
  | _ => false

end AccessError

end CacheAside
