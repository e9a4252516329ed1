import CacheAside.Key.Basic
import CacheAside.Map.Policy
import CacheAside.Map.Processor
import CacheAside.Table
import CacheAside.Text.Quoted
/-!
Cache maps: values under cache keys, kept according to a policy. A map whose policy retains
nothing is empty at all times. Losing an entry to eviction or age is an event of its own, `lose`:
when it happens is up to the host. `tidy` is what a host does about a map beyond its capacity when
none of its entries has been asked for more often than another.
-/

set_option autoImplicit false

namespace CacheAside

structure EntryMap (V : Type) where
  name : String
  policy : MapPolicy
  entries : Table Key V

namespace EntryMap

variable {V Out : Type}

def create (name : String) (policy : MapPolicy) : Except PolicyFlaw (EntryMap V) :=
  match policy.flaw? with
  | some flaw => .error flaw
  | none => .ok ⟨name, policy, ∅⟩

def get? (m : EntryMap V) (k : Key) : Option V :=
  m.entries.get? k

def contains (m : EntryMap V) (k : Key) : Bool :=
  m.entries.contains k

def size (m : EntryMap V) : Nat :=
  m.entries.size

def put (m : EntryMap V) (k : Key) (v : V) : EntryMap V :=
  if m.policy.retains then { m with entries := m.entries.insert k v } else m

def lose (m : EntryMap V) (k : Key) : EntryMap V :=
  { m with entries := m.entries.erase k }

def remove (m : EntryMap V) (k : Key) : Option V × EntryMap V :=
  (m.get? k, m.lose k)

/-- Brings a map back within its capacity: the entries that came first stay. -/
def tidy (m : EntryMap V) : EntryMap V :=
  match m.policy.enforcedCapacity with
  | some n => { m with entries := m.entries.take n }
  | none => m

def clear (m : EntryMap V) : EntryMap V :=
  { m with entries := ∅ }

def settle (m : EntryMap V) (k : Key) : Option V → EntryMap V
  | some v => m.put k v
  | none => m.lose k

/-- Runs a processor once on the entry under a key. A crash leaves the map as it was. -/
def submit (m : EntryMap V) (k : Key) (p : Processor V Out) : Except String Out × EntryMap V :=
  match p (m.get? k) with
  | .error text => (.error text, m)
  | .ok (out, left) => (.ok out, m.settle k left)

def description (m : EntryMap V) : String :=
  "LocalMap \x7b name: " ++ Text.quoted m.name ++ ", entry_count: " ++ toString m.size ++ " \x7d"

/-- What a processor's work means for the view of a map that retains its entries. -/
theorem get?_settle {m : EntryMap V} (h : m.policy.retains = true) (k l : Key) (o : Option V) :
    (m.settle k o).get? l = if k = l then o else m.get? l := by
  cases o <;> simp [settle, put, lose, get?, h]

@[simp] theorem get?_lose (m : EntryMap V) (k l : Key) :
    (m.lose k).get? l = if k = l then none else m.get? l := by
  simp [lose, get?]

theorem get?_put {m : EntryMap V} (h : m.policy.retains = true) (k l : Key) (v : V) :
    (m.put k v).get? l = if k = l then some v else m.get? l := by
  simp [put, get?, h]

theorem get?_put_of_ne (m : EntryMap V) {k l : Key} (h : k ≠ l) (v : V) :
    (m.put k v).get? l = m.get? l := by
  unfold put
  split
  · simp [get?, h]
  · rfl

@[simp] theorem policy_put (m : EntryMap V) (k : Key) (v : V) : (m.put k v).policy = m.policy := by
  unfold put
  split <;> rfl

end EntryMap

end CacheAside
