import CacheAside.Fault
import CacheAside.Span

set_option autoImplicit false

namespace CacheAside

structure LoadTask where
  span : Span
  mapName : String
  deriving DecidableEq, Repr

namespace LoadTask

def wrap (t : LoadTask) (f : Fault) : Fault :=
  f.within ("loading " ++ t.span.text ++ " into " ++ t.mapName)

end LoadTask

/-- The rows loaded from a part, or the text of the failure. -/
structure RangeOutcome where
  span : Span
  result : Except String Nat

namespace RangeOutcome

def isFailure (o : RangeOutcome) : Bool :=
  match o.result with
  | .ok _ => false
  | .error _ => true

def count (o : RangeOutcome) : Nat :=
  match o.result with
  | .ok n => n
  | .error _ => 0

/-- What a task's ending means for its part; a task without one was lost. -/
def ofEnding (t : LoadTask) : Option (Ending Fault Nat) → RangeOutcome
  | some (.value n) => ⟨t.span, .ok n⟩
  | some (.error f) => ⟨t.span, .error (t.wrap f).oneLine⟩
  | some (.crash _) => ⟨t.span, .error "load task panicked"⟩
  | none => ⟨t.span, .error "task did not complete"⟩

end RangeOutcome

structure LoadReport where
  mapName : String
  outcomes : List RangeOutcome
  skippedLast : Bool

namespace LoadReport

def loaded (r : LoadReport) : Nat :=
  (r.outcomes.map RangeOutcome.count).foldr (· + ·) 0

def failures (r : LoadReport) : List RangeOutcome :=
  r.outcomes.filter RangeOutcome.isFailure

def isComplete (r : LoadReport) : Bool :=
  r.failures.isEmpty

theorem isComplete_iff (r : LoadReport) :
    r.isComplete = true ↔ ∀ o ∈ r.outcomes, o.isFailure = false := by
  simp [isComplete, failures]

end LoadReport

end CacheAside
