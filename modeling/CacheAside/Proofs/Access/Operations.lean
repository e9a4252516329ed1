import CacheAside.Proofs.Access.Moves
import CacheAside.Proofs.Access.Tasks
import CacheAside.Warmup.Load

set_option autoImplicit false

namespace CacheAside

variable {E Out L : Type}

inductive Operation (E : Type) where
  | find (parts : List KeyPart)
  | save (entity : E)
  | remove (entity : E)
  | load (span : Span) (splits : Nat)

def Operation.requests : Operation E → List (Request E Out)
  | .find parts => [.find parts]
  | .save e => [.save e]
  | .remove e => [.remove e]
  | .load span splits => (span.split splits).map .load

/-- What may happen in a run. -/
structure Climate (E Out : Type) where
  asks : Request E Out → Prop
  meets : Work E Out → Conduct E → Prop
  loses : Prop

namespace Tiers

variable [Entity E]

def askAll (s : Tiers E Out L) (client : Client L) (requests : List (Request E Out)) :
    Tiers E Out L :=
  requests.foldl (fun s r => (s.ask client r).2) s

def begin (s : Tiers E Out L) (client : Client L) (op : Operation E) : Tiers E Out L :=
  s.askAll client op.requests

@[simp] theorem askAll_map (s : Tiers E Out L) (client : Client L)
    (requests : List (Request E Out)) : (s.askAll client requests).map = s.map := by
  induction requests generalizing s with
  | nil => rfl
  | cons r rest ih => exact (ih _).trans (s.ask_map client r)

@[simp] theorem askAll_store (s : Tiers E Out L) (client : Client L)
    (requests : List (Request E Out)) : (s.askAll client requests).store = s.store := by
  induction requests generalizing s with
  | nil => rfl
  | cons r rest ih => exact (ih _).trans (s.ask_store client r)

@[simp] theorem result?_askAll (s : Tiers E Out L) (client : Client L)
    (requests : List (Request E Out)) (i : Nat) :
    (s.askAll client requests).result? i = s.result? i := by
  induction requests generalizing s with
  | nil => rfl
  | cons r rest ih => exact (ih _).trans (s.result?_ask client r i)

theorem due_askAll {P : Work E Out → Prop} {s : Tiers E Out L} (client : Client L)
    {requests : List (Request E Out)} (hs : ∀ j w, s.Due j w → P w)
    (hr : ∀ r ∈ requests, ∀ w, r.opening = .ok w → P w) :
    ∀ j w, (s.askAll client requests).Due j w → P w := by
  induction requests generalizing s with
  | nil => exact hs
  | cons r rest ih =>
    refine ih (fun j w hw => ?_) fun q hq => hr q (.tail _ hq)
    rcases (due_ask ..).1 hw with hd | ⟨-, ho⟩
    · exact hs j w hd
    · exact hr r (.head _) w ho

def Permits (climate : Climate E Out) (s : Tiers E Out L) : Event E Out L → Prop
  | .ask _ request => climate.asks request
  | .call i conduct => ∀ w, s.Due i w → climate.meets w conduct
  | .lose _ => climate.loses

def PermitsAll (climate : Climate E Out) (s : Tiers E Out L) : List (Event E Out L) → Prop
  | [] => True
  | e :: rest => s.Permits climate e ∧ (s.step e).PermitsAll climate rest

omit [Entity E] in
/-- Nothing is left to do but to tell listeners. -/
def Settled (s : Tiers E Out L) : Prop :=
  ∀ i w, s.Due i w → w.IsNotice

omit [Entity E] in
theorem permits_call {climate : Climate E Out} {s : Tiers E Out L} {i : Nat} {w : Work E Out}
    {c : Conduct E} (hw : s.Due i w) (hc : climate.meets w c) : s.Permits climate (.call i c) := by
  intro v hv
  rwa [hv.unique hw]

omit [Entity E] in
theorem settled_of_isQuiet {s : Tiers E Out L} (h : s.isQuiet = true) : s.Settled :=
  fun i w hw => absurd hw (not_due_of_isQuiet h i w)

/-- What one event preserves, a permitted run preserves. -/
theorem run_of_step {climate : Climate E Out} {P : Tiers E Out L → Prop}
    (hstep : ∀ s e, P s → s.Permits climate e → P (s.step e)) {s : Tiers E Out L} (hs : P s)
    {events : List (Event E Out L)} (h : s.PermitsAll climate events) : P (s.run events) := by
  induction events generalizing s with
  | nil => exact hs
  | cons e rest ih => exact ih (hstep s e hs h.1) h.2

section Due

variable {s : Tiers E Out L} {client : Client L} {m : Move E Out} {i : Nat}

omit [Entity E] in
/-- What all due work is like stays so if it is true of the work that a move leads to. -/
theorem due_of_apply {P : Work E Out → Prop} (hs : ∀ j w, s.Due j w → P w)
    (hi : i < s.tasks.length) (hnext : ∀ w, m.progress = .next w → P w)
    (hsp : ∀ w ∈ m.spawned, P w) : ∀ j w, (s.apply i client m).Due j w → P w := by
  intro j w hw
  rcases (due_apply hi j w).1 hw with ⟨-, hn⟩ | ⟨-, hd⟩ | ⟨-, hmem⟩
  · exact hnext w hn
  · exact hs j w hd
  · exact hsp w (List.mem_of_getElem? hmem)

end Due

omit [Entity E] in
structure Alone (s : Tiers E Out L) (n : Nat) (w : Work E Out) : Prop where
  due : s.Due n w
  rest : ∀ j v, s.Due j v → v.IsNotice ∨ j = n

section Alone

variable {s : Tiers E Out L} {client : Client L} {m : Move E Out} {i n : Nat} {v w : Work E Out}

omit [Entity E] in
theorem Settled.of_apply (hs : ∀ j v, s.Due j v → v.IsNotice ∨ j = i) (hi : i < s.tasks.length)
    (hm : ∀ w, m.progress ≠ .next w) (hsp : ∀ w ∈ m.spawned, w.IsNotice) :
    (s.apply i client m).Settled := by
  intro j w hw
  rcases (due_apply hi j w).1 hw with ⟨-, hn⟩ | ⟨hj, hd⟩ | ⟨-, hmem⟩
  · exact absurd hn (hm w)
  · exact (hs j w hd).resolve_right hj
  · exact hsp w (List.mem_of_getElem? hmem)

omit [Entity E] in
theorem Alone.of_apply (h : s.Alone n v) (hm : m.progress = .next w) (hsp : m.spawned = []) :
    (s.apply n client m).Alone n w := by
  have hn := h.due.lt
  refine ⟨(due_apply hn n w).2 (.inl ⟨rfl, hm⟩), fun j x hx => ?_⟩
  rcases (due_apply hn j x).1 hx with ⟨hj, -⟩ | ⟨-, hd⟩ | ⟨-, hmem⟩
  · exact .inr hj
  · exact h.rest j x hd
  · simp [hsp] at hmem

omit [Entity E] in
theorem Alone.due_cases (h : s.Alone n w) (hi : s.Due i v) :
    i = n ∧ v = w ∨ i ≠ n ∧ v.IsNotice := by
  by_cases hin : i = n
  · subst hin
    exact .inl ⟨rfl, hi.unique h.due⟩
  · exact .inr ⟨hin, (h.rest i v hi).resolve_right hin⟩

theorem apply_notice_map (hv : v.IsNotice) (listening : Bool) (c : Conduct E) :
    (s.apply i client (v.advance i listening s.map s.store c)).map = s.map :=
  (Work.advance_notice i listening s.map s.store hv).1

theorem apply_notice_store (hv : v.IsNotice) (listening : Bool) (c : Conduct E) :
    (s.apply i client (v.advance i listening s.map s.store c)).store = s.store :=
  (Work.advance_notice i listening s.map s.store hv).2.1

theorem due_apply_notice (hi : s.Due i v) (hv : v.IsNotice) (listening : Bool) (c : Conduct E)
    (j : Nat) (w : Work E Out) :
    (s.apply i client (v.advance i listening s.map s.store c)).Due j w ↔ j ≠ i ∧ s.Due j w := by
  obtain ⟨-, -, hp, hsp⟩ := Work.advance_notice i listening s.map s.store (c := c) hv
  rw [due_apply hi.lt, hp, hsp]
  simp

theorem Alone.apply_notice (h : s.Alone n w) (hin : i ≠ n) (hi : s.Due i v) (hv : v.IsNotice)
    (listening : Bool) (c : Conduct E) :
    (s.apply i client (v.advance i listening s.map s.store c)).Alone n w := by
  refine ⟨(due_apply_notice hi hv ..).2 ⟨Ne.symm hin, h.due⟩, fun j x hx => ?_⟩
  exact h.rest j x ((due_apply_notice hi hv ..).1 hx).2

theorem Settled.apply_notice (h : s.Settled) (hi : s.Due i v) (listening : Bool) (c : Conduct E) :
    (s.apply i client (v.advance i listening s.map s.store c)).Settled := by
  intro j x hx
  exact h j x ((due_apply_notice hi (h i v hi) ..).1 hx).2

theorem Alone.ask (h : s.Settled) {r : Request E Out} (hr : r.opening = .ok w) :
    (s.ask client r).2.Alone s.tasks.length w := by
  refine ⟨(due_ask ..).2 (.inr ⟨rfl, hr⟩), fun j x hx => ?_⟩
  rcases (due_ask ..).1 hx with hd | ⟨hj, -⟩
  · exact .inl (h j x hd)
  · exact .inr hj

theorem Settled.ask (h : s.Settled) {r : Request E Out} {err : KeyError}
    (hr : r.opening = .error err) : (s.ask client r).2.Settled := by
  intro j x hx
  rcases (due_ask ..).1 hx with hd | ⟨-, hx⟩
  · exact h j x hd
  · simp [hr] at hx

end Alone

end Tiers

end CacheAside
