import CacheAside.Key.Basic
import CacheAside.Text.Lowercase
/-!
Entities: what can be cached. An entity lists the values of its primary key in order and has a
slot for its cache key, which is empty until the entity is stamped.
-/

set_option autoImplicit false

namespace CacheAside

class Entity (E : Type) where
  kind : String
  parts : E → List KeyPart
  stamped? : E → Option Key
  stamp : Key → E → E

/-- Entities whose stamp is a plain slot beside the values of the primary key. -/
class LawfulEntity (E : Type) [Entity E] : Prop where
  parts_stamp : ∀ (k : Key) (e : E), Entity.parts (Entity.stamp k e) = Entity.parts e
  stamped?_stamp : ∀ (k : Key) (e : E), Entity.stamped? (Entity.stamp k e) = some k
  stamp_stamp : ∀ (k l : Key) (e : E),
    Entity.stamp k (Entity.stamp l e) = Entity.stamp k e
  stamp_self : ∀ (k : Key) (e : E), Entity.stamped? e = some k → Entity.stamp k e = e

namespace Entity

variable {E : Type} [Entity E]

def mapName (kind : String) : String :=
  Text.lowercase kind

/-- The stamped key, else the one derived from the primary key. -/
def key (e : E) : Except KeyError Key :=
  match stamped? e with
  | some k => .ok k
  | none => Key.derive (parts e)

/-- Entities equal but for their stamps. -/
def SameContent (a b : E) : Prop :=
  ∀ k : Key, stamp k a = stamp k b

theorem key_of_stamped {e : E} {k : Key} (h : stamped? e = some k) : key e = .ok k := by
  simp [key, h]

theorem key_stamp [LawfulEntity E] (k : Key) (e : E) : key (stamp k e) = .ok k :=
  key_of_stamped (LawfulEntity.stamped?_stamp k e)

end Entity

structure Item where
  parts : List KeyPart
  stamp : Option Key
  content : String
  deriving Repr, Inhabited

namespace Item

instance : Entity Item where
  kind := "Item"
  parts e := e.parts
  stamped? e := e.stamp
  stamp k e := { e with stamp := some k }

instance : LawfulEntity Item where
  parts_stamp _ _ := rfl
  stamped?_stamp _ _ := rfl
  stamp_stamp _ _ _ := rfl
  stamp_self k e h := by
    cases e
    simp only [Entity.stamped?] at h
    simp [Entity.stamp, h]

def ofContent (content : String) : Item :=
  ⟨[], none, content⟩

def sample (content : String) : Item :=
  ⟨[.int 7], none, content⟩

/-- The key that is derived for `sample`. -/
def sampleKey : Key :=
  ⟨-4015069608279270505⟩

theorem derive_sample : Key.derive [.int 7] = .ok sampleKey :=
  rfl

def stampedSample (content : String) : Item :=
  Entity.stamp sampleKey (sample content)

end Item

end CacheAside
