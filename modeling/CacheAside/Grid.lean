import CacheAside.Map.EntryMap
/-!
Grids: named maps of several kinds of values, and the policies set aside for maps that do not
exist yet. A handle stays with the map it was given for, also after the name is dropped.

Opening and dropping a map takes two steps each, between which other callers may act; the steps
are definitions of their own.
-/

set_option autoImplicit false

namespace CacheAside

variable {Kind : Type} {Val : Kind → Type}

structure Cell (Val : Kind → Type) where
  kind : Kind
  map : EntryMap (Val kind)

def Cell.at? [DecidableEq Kind] (c : Cell Val) (k : Kind) : Option (EntryMap (Val k)) :=
  if h : c.kind = k then some (h ▸ c.map) else none

def Cell.update [DecidableEq Kind] (c : Cell Val) (k : Kind)
    (f : EntryMap (Val k) → EntryMap (Val k)) : Cell Val :=
  if h : c.kind = k then ⟨k, f (h ▸ c.map)⟩ else c

structure Place (Kind : Type) where
  kind : Kind
  index : Nat
  deriving DecidableEq, Repr

structure Grid (Kind : Type) (Val : Kind → Type) where
  standard : MapPolicy
  names : Table String (Place Kind)
  policies : Table String MapPolicy
  cells : List (Cell Val)

/-- A map whose values are of one kind, by its place among all maps of its grid. -/
structure Handle (k : Kind) where
  index : Nat
  deriving DecidableEq, Repr

structure KindMismatch (Kind : Type) where
  name : String
  wanted : Kind
  found : Kind
  deriving DecidableEq, Repr

/-- Why a map could not be had: a fault, or a policy that crashes its creation. -/
inductive OpenError (Kind : Type) where
  | mismatch (fault : KindMismatch Kind)
  | flawed (flaw : PolicyFlaw)
  deriving DecidableEq, Repr

def KindMismatch.message (label : Kind → String) (m : KindMismatch Kind) : String :=
  "map '" ++ m.name ++ "' type mismatch: expected " ++ label m.wanted ++ ", got " ++ label m.found

namespace Grid

def create (standard : MapPolicy) : Grid Kind Val :=
  ⟨standard, ∅, ∅, []⟩

def policyOf (g : Grid Kind Val) (name : String) : MapPolicy :=
  (g.policies.get? name).getD g.standard

def contains (g : Grid Kind Val) (name : String) : Bool :=
  g.names.contains name

def insertName (n : String) : List String → List String
  | [] => [n]
  | m :: rest => if m < n then m :: insertName n rest else n :: m :: rest

def mapNames (g : Grid Kind Val) : List String :=
  g.names.keys.foldr insertName []

/-- Sets the policy of a map that does not exist yet, and tells whether it did. -/
def configure (g : Grid Kind Val) (name : String) (p : MapPolicy) : Bool × Grid Kind Val :=
  if g.contains name then (false, g)
  else (true, { g with policies := g.policies.insert name p })

def dropPolicy (g : Grid Kind Val) (name : String) : Grid Kind Val :=
  { g with policies := g.policies.erase name }

def dropName (g : Grid Kind Val) (name : String) : Bool × Grid Kind Val :=
  (g.contains name, { g with names := g.names.erase name })

def drop (g : Grid Kind Val) (name : String) : Bool × Grid Kind Val :=
  (g.dropPolicy name).dropName name

variable [DecidableEq Kind]

def handleAt (name : String) (k : Kind) (p : Place Kind) :
    Except (OpenError Kind) (Handle k) :=
  if p.kind = k then .ok ⟨p.index⟩ else .error (.mismatch ⟨name, k, p.kind⟩)

/-- First step of opening: the map that has the name. -/
def find? (g : Grid Kind Val) (name : String) (k : Kind) :
    Option (Except (OpenError Kind) (Handle k)) :=
  (g.names.get? name).map (handleAt name k)

/-- Second step of opening: the map that meanwhile has the name, or a new one. -/
def findOrCreate (g : Grid Kind Val) (name : String) (k : Kind) :
    Except (OpenError Kind) (Handle k) × Grid Kind Val :=
  match g.find? name k with
  | some found => (found, g)
  | none =>
    match EntryMap.create name (g.policyOf name) with
    | .error flaw => (.error (.flawed flaw), g)
    | .ok m =>
      (.ok ⟨g.cells.length⟩,
        { g with
          names := g.names.insert name ⟨k, g.cells.length⟩
          cells := g.cells ++ [⟨k, m⟩] })

def openMap (g : Grid Kind Val) (name : String) (k : Kind) :
    Except (OpenError Kind) (Handle k) × Grid Kind Val :=
  match g.find? name k with
  | some found => (found, g)
  | none => g.findOrCreate name k

def map? (g : Grid Kind Val) {k : Kind} (h : Handle k) : Option (EntryMap (Val k)) :=
  g.cells[h.index]? >>= (·.at? k)

def updateMap (g : Grid Kind Val) {k : Kind} (h : Handle k)
    (f : EntryMap (Val k) → EntryMap (Val k)) : Grid Kind Val :=
  { g with cells := g.cells.modify h.index (·.update k f) }

omit [DecidableEq Kind] in
def description (g : Grid Kind Val) : String :=
  "LocalGrid \x7b map_count: " ++ toString g.names.size ++ ", map_names: "
    ++ Text.quotedList g.mapNames ++ " \x7d"

/-- Opening is finding or creating in one step. -/
theorem openMap_eq_findOrCreate (g : Grid Kind Val) (name : String) (k : Kind) :
    g.openMap name k = g.findOrCreate name k := by
  unfold openMap findOrCreate
  cases g.find? name k <;> rfl

end Grid

end CacheAside
