import CacheAside.Grid
import Mathlib.Data.List.Induction

set_option autoImplicit false

namespace CacheAside

variable {Kind : Type} {Val : Kind → Type}

inductive NameCall (Kind : Type) where
  | configure (p : MapPolicy)
  | openMap (k : Kind)
  | drop
  deriving DecidableEq

inductive NameReply (Kind : Type) where
  | told (yes : Bool)
  | opened (place : Place Kind)
  | refused (err : OpenError Kind)
  deriving DecidableEq

namespace NameReply

def ofHandle (k : Kind) : Except (OpenError Kind) (Handle k) → NameReply Kind
  | .ok h => .opened ⟨k, h.index⟩
  | .error err => .refused err

end NameReply

/-- How far a call has come, by what its next section is. -/
inductive CallStage (Kind : Type) where
  | called (c : NameCall Kind)
  | creating (k : Kind)
  | dropping
  | done (r : NameReply Kind)
  deriving DecidableEq

structure Crowd (Kind : Type) (Val : Kind → Type) where
  grid : Grid Kind Val
  stages : List (CallStage Kind)

/-- Calls on a name of a grid, and the order of their sections by the numbers of the calls. -/
structure Traffic (Kind : Type) (Val : Kind → Type) where
  grid : Grid Kind Val
  name : String
  calls : List (NameCall Kind)
  schedule : List Nat

namespace Grid

variable [DecidableEq Kind]

def serve (g : Grid Kind Val) (name : String) : NameCall Kind → NameReply Kind × Grid Kind Val
  | .configure p => (.told (g.configure name p).1, (g.configure name p).2)
  | .openMap k => (.ofHandle k (g.openMap name k).1, (g.openMap name k).2)
  | .drop => (.told (g.drop name).1, (g.drop name).2)

def serveAll (name : String) :
    Grid Kind Val → List (NameCall Kind) → List (NameReply Kind) × Grid Kind Val
  | g, [] => ([], g)
  | g, c :: rest =>
    let r := g.serve name c
    let rs := serveAll name r.2 rest
    (r.1 :: rs.1, rs.2)

theorem serveAll_append (name : String) (g : Grid Kind Val) (as bs : List (NameCall Kind)) :
    g.serveAll name (as ++ bs) =
      ((g.serveAll name as).1 ++ ((g.serveAll name as).2.serveAll name bs).1,
        ((g.serveAll name as).2.serveAll name bs).2) := by
  induction as generalizing g with
  | nil => rfl
  | cons c rest ih => simp only [List.cons_append, serveAll, ih]

def advance (g : Grid Kind Val) (name : String) :
    CallStage Kind → CallStage Kind × Grid Kind Val
  | .called (.configure p) => (.done (.told (g.configure name p).1), (g.configure name p).2)
  | .called (.openMap k) =>
    match g.find? name k with
    | some found => (.done (.ofHandle k found), g)
    | none => (.creating k, g)
  | .called .drop => (.dropping, g.dropPolicy name)
  | .creating k =>
    (.done (.ofHandle k (g.findOrCreate name k).1), (g.findOrCreate name k).2)
  | .dropping => (.done (.told (g.dropName name).1), (g.dropName name).2)
  | .done r => (.done r, g)

end Grid

namespace Crowd

variable [DecidableEq Kind] {t : Crowd Kind Val} {name : String} {i : Nat} {s : CallStage Kind}

/-- The call of a number makes its next section. -/
def step (name : String) (t : Crowd Kind Val) (i : Nat) : Crowd Kind Val :=
  match t.stages[i]? with
  | none => t
  | some s => ⟨(t.grid.advance name s).2, t.stages.set i (t.grid.advance name s).1⟩

theorem step_of_none (h : t.stages[i]? = none) : t.step name i = t := by
  rw [step, h]

theorem step_of_done {r : NameReply Kind} (h : t.stages[i]? = some (.done r)) :
    t.step name i = t := by
  obtain ⟨hlt, hstage⟩ := List.getElem?_eq_some_iff.1 h
  have hset : t.stages.set i (.done r) = t.stages := by rw [← hstage, List.set_getElem_self]
  rw [step, h]
  simp only [Grid.advance, hset]

theorem grid_step (h : t.stages[i]? = some s) :
    (t.step name i).grid = (t.grid.advance name s).2 := by
  rw [step, h]

theorem length_stages_step (name : String) (t : Crowd Kind Val) (i : Nat) :
    (t.step name i).stages.length = t.stages.length := by
  rw [step]
  split
  · rfl
  · exact List.length_set

theorem stages_step (h : t.stages[i]? = some s) (j : Nat) :
    (t.step name i).stages[j]? =
      if j = i then some (t.grid.advance name s).1 else t.stages[j]? := by
  have hlt := (List.getElem?_eq_some_iff.1 h).1
  rw [step, h]
  by_cases hij : i = j
  · subst hij
    simp [hlt]
  · simp [hij, Ne.symm hij]

end Crowd

namespace Traffic

def start (c : Traffic Kind Val) : Crowd Kind Val :=
  ⟨c.grid, c.calls.map .called⟩

variable [DecidableEq Kind]

def moment (c : Traffic Kind Val) (n : Nat) : Crowd Kind Val :=
  (c.schedule.take n).foldl (Crowd.step c.name) c.start

theorem moment_succ {c : Traffic Kind Val} {n i : Nat} (h : c.schedule[n]? = some i) :
    c.moment (n + 1) = (c.moment n).step c.name i := by
  rw [moment, List.take_add_one, h, List.foldl_append]
  rfl

theorem length_stages (c : Traffic Kind Val) (n : Nat) :
    (c.moment n).stages.length = c.calls.length := by
  rw [moment]
  induction c.schedule.take n using List.reverseRecOn with
  | nil => simp [start]
  | append_singleton past i ih =>
    rw [List.foldl_append, List.foldl_cons, List.foldl_nil, Crowd.length_stages_step, ih]

def ending (c : Traffic Kind Val) : Crowd Kind Val :=
  c.moment c.schedule.length

end Traffic

end CacheAside
