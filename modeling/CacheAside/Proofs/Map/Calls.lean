import CacheAside.Map.EntryMap

set_option autoImplicit false

namespace CacheAside

inductive MapCall (V : Type) : Type → Type 1 where
  | put (k : Key) (v : V) : MapCall V Unit
  | get (k : Key) : MapCall V (Option V)
  | peek (k : Key) : MapCall V (Option V)
  | contains (k : Key) : MapCall V Bool
  | remove (k : Key) : MapCall V (Option V)
  | submit {Out : Type} (k : Key) (p : Processor V Out) : MapCall V (Except String Out)
  | clear : MapCall V Unit
  | size : MapCall V Nat

namespace EntryMap

variable {V Out α : Type}

def perform (m : EntryMap V) : MapCall V α → α × EntryMap V
  | .put k v => ((), m.put k v)
  | .get k => (m.get? k, m)
  | .peek k => (m.get? k, m)
  | .contains k => (m.contains k, m)
  | .remove k => m.remove k
  | .submit k p => m.submit k p
  | .clear => ((), m.clear)
  | .size => (m.size, m)

/-- A processor crashes without effect, or its entry is settled with what it left. -/
theorem submit_cases (m : EntryMap V) (k : Key) (p : Processor V Out) :
    (∃ text, p (m.get? k) = .error text ∧ m.submit k p = (.error text, m)) ∨
      ∃ out left, p (m.get? k) = .ok (out, left) ∧ m.submit k p = (.ok out, m.settle k left) := by
  cases h : p (m.get? k) with
  | error text => exact .inl ⟨text, rfl, by simp [submit, h]⟩
  | ok r => exact .inr ⟨r.1, r.2, rfl, by simp [submit, h]⟩

@[simp] theorem policy_settle (m : EntryMap V) (k : Key) (o : Option V) :
    (m.settle k o).policy = m.policy := by
  cases o <;> simp [settle, lose]

@[simp] theorem policy_submit (m : EntryMap V) (k : Key) (p : Processor V Out) :
    (m.submit k p).2.policy = m.policy := by
  obtain ⟨_, -, h⟩ | ⟨_, _, -, h⟩ := m.submit_cases k p <;> simp [h]

theorem get?_settle_of_ne (m : EntryMap V) {k l : Key} (h : l ≠ k) (o : Option V) :
    (m.settle l o).get? k = m.get? k := by
  cases o with
  | none => simp [settle, h]
  | some v => exact m.get?_put_of_ne h v

theorem get?_submit_of_ne {m : EntryMap V} {k l : Key} (h : l ≠ k) (p : Processor V Out) :
    (m.submit l p).2.get? k = m.get? k := by
  obtain ⟨_, -, hs⟩ | ⟨_, left, -, hs⟩ := m.submit_cases l p
  · rw [hs]
  · rw [hs, m.get?_settle_of_ne h left]

theorem get?_insertIfAbsent {m : EntryMap V} (hr : m.policy.retains = true) (k l : Key) (v : V) :
    (m.submit k (.insertIfAbsent v)).2.get? l =
      if k = l then some ((m.get? k).getD v) else m.get? l := by
  cases h : m.get? k <;>
    simp [submit, Processor.insertIfAbsent, h, get?_settle hr]

theorem policy_perform (m : EntryMap V) (c : MapCall V α) :
    (m.perform c).2.policy = m.policy := by
  cases c with
  | put k v => exact m.policy_put k v
  | submit k p => exact m.policy_submit k p
  | get | peek | contains | remove | clear | size => rfl

theorem name_put (m : EntryMap V) (k : Key) (v : V) : (m.put k v).name = m.name := by
  unfold put
  split <;> rfl

theorem name_perform (m : EntryMap V) (c : MapCall V α) : (m.perform c).2.name = m.name := by
  cases c with
  | put k v => exact m.name_put k v
  | submit k p =>
    obtain ⟨_, -, h⟩ | ⟨_, left, -, h⟩ := m.submit_cases k p
    · rw [perform, h]
    · rw [perform, h]
      cases left with
      | none => rfl
      | some v => exact m.name_put k v
  | get | peek | contains | remove | clear | size => rfl

theorem eq_of_create {name : String} {policy : MapPolicy} {m : EntryMap V}
    (h : create name policy = .ok m) : m = ⟨name, policy, ∅⟩ := by
  unfold create at h
  split at h
  · cases h
  · cases h
    rfl

def Vacant (m : EntryMap V) : Prop :=
  m.policy.retains = false → ∀ k, m.get? k = none

theorem vacant_of_create {name : String} {policy : MapPolicy} {m : EntryMap V}
    (h : create name policy = .ok m) : m.Vacant := by
  rw [eq_of_create h]
  exact fun _ _ => rfl

namespace Vacant

variable {m : EntryMap V}

theorem put (h : m.Vacant) (k : Key) (v : V) : (m.put k v).Vacant := by
  intro hr l
  rw [policy_put] at hr
  rw [EntryMap.put, if_neg (by simp [hr])]
  exact h hr l

theorem lose (h : m.Vacant) (k : Key) : (m.lose k).Vacant := by
  intro hr l
  rw [get?_lose, h hr l, ite_self]

theorem settle (h : m.Vacant) (k : Key) (o : Option V) : (m.settle k o).Vacant := by
  cases o with
  | none => exact h.lose k
  | some v => exact h.put k v

theorem submit (h : m.Vacant) (k : Key) (p : Processor V Out) : (m.submit k p).2.Vacant := by
  obtain ⟨_, -, hs⟩ | ⟨_, left, -, hs⟩ := m.submit_cases k p
  · rwa [hs]
  · rw [hs]
    exact h.settle k left

theorem perform (h : m.Vacant) (c : MapCall V α) : (m.perform c).2.Vacant := by
  cases c with
  | put k v => exact h.put k v
  | remove k => exact h.lose k
  | submit k p => exact h.submit k p
  | clear => exact fun _ _ => rfl
  | get | peek | contains | size => exact h

end Vacant

end EntryMap

variable {V : Type}

/-- A map that retains nothing is empty, and any other shows nothing but what it may. -/
structure Shown (view : Key → V → Prop) (map : EntryMap V) : Prop where
  vacant : map.Vacant
  entry : ∀ k e, map.get? k = some e → view k e

namespace Shown

variable {view : Key → V → Prop} {map : EntryMap V} {k : Key} {e : V}

theorem mono {wide : Key → V → Prop} (h : Shown view map) (hw : ∀ k e, view k e → wide k e) :
    Shown wide map :=
  ⟨h.vacant, fun k e he => hw k e (h.entry k e he)⟩

theorem create {name : String} {policy : MapPolicy} (view : Key → V → Prop)
    (h : EntryMap.create name policy = .ok map) : Shown view map := by
  refine ⟨EntryMap.vacant_of_create h, fun k e he => ?_⟩
  rw [EntryMap.eq_of_create h] at he
  exact nomatch he

theorem lose (h : Shown view map) (k : Key) : Shown view (map.lose k) := by
  refine ⟨h.vacant.lose k, fun l f hf => ?_⟩
  rw [EntryMap.get?_lose] at hf
  split at hf
  · cases hf
  · exact h.entry l f hf

theorem put (h : Shown view map) (hv : view k e) : Shown view (map.put k e) := by
  refine ⟨h.vacant.put k e, fun l f hf => ?_⟩
  cases hr : map.policy.retains with
  | false =>
    rw [EntryMap.put, if_neg (by simp [hr])] at hf
    exact h.entry l f hf
  | true =>
    rw [EntryMap.get?_put hr] at hf
    split at hf
    · cases hf
      exact ‹k = l› ▸ hv
    · exact h.entry l f hf

theorem refill (h : Shown view map) (hv : view k e) :
    Shown view (map.submit k (.insertIfAbsent e)).2 := by
  cases hget : map.get? k with
  | none => simpa [EntryMap.submit, Processor.insertIfAbsent, hget, EntryMap.settle] using h.put hv
  | some old =>
    simpa [EntryMap.submit, Processor.insertIfAbsent, hget, EntryMap.settle] using
      h.put (h.entry k old hget)

end Shown

end CacheAside
