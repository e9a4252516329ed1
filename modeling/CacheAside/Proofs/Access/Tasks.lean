import CacheAside.Access.Tiers

set_option autoImplicit false

namespace CacheAside

variable {E Out L : Type}

namespace Request

variable [Entity E]

def opening : Request E Out → Except KeyError (Work E Out)
  | .find parts => (Key.derive parts).map fun k => .readGrid k parts
  | .save e => (Entity.key e).map fun k => .saveGrid k (Entity.stamp k e)
  | .remove e => (Entity.key e).map fun k => .removeGrid k e
  | .execute e p => (Entity.key e).map fun k => .execute k p
  | .refill k e => .ok (.refill k e)
  | .load span => .ok (.scan span)

def derivations : Request E Out → List Signal
  | .find _ => [.createKey]
  | .save e | .remove e | .execute e _ =>
    if (Entity.stamped? e).isSome then [] else [.createKey]
  | .refill _ _ | .load _ => []

section Opening

variable {parts : List KeyPart} {k : Key} {e : E} {err : KeyError}

theorem opening_find (h : Key.derive parts = .ok k) :
    (find parts : Request E Out).opening = .ok (.readGrid k parts) := by
  rw [opening, h, Except.map]

theorem opening_find_error (h : Key.derive parts = .error err) :
    (find parts : Request E Out).opening = .error err := by
  rw [opening, h, Except.map]

theorem opening_save (h : Entity.key e = .ok k) :
    (save e : Request E Out).opening = .ok (.saveGrid k (Entity.stamp k e)) := by
  rw [opening, h, Except.map]

theorem opening_save_error (h : Entity.key e = .error err) :
    (save e : Request E Out).opening = .error err := by
  rw [opening, h, Except.map]

theorem opening_remove (h : Entity.key e = .ok k) :
    (remove e : Request E Out).opening = .ok (.removeGrid k e) := by
  rw [opening, h, Except.map]

theorem opening_remove_error (h : Entity.key e = .error err) :
    (remove e : Request E Out).opening = .error err := by
  rw [opening, h, Except.map]

end Opening

end Request

namespace Tiers

/-- The next call of a task is that of the work. -/
def Due (s : Tiers E Out L) (i : Nat) (w : Work E Out) : Prop :=
  ∃ client, s.tasks[i]? = some ⟨client, .next w⟩

theorem Due.unique {s : Tiers E Out L} {i : Nat} {v w : Work E Out} (hv : s.Due i v)
    (hw : s.Due i w) : v = w := by
  obtain ⟨c, hc⟩ := hv
  obtain ⟨d, hd⟩ := hw
  rw [hc] at hd
  cases hd
  rfl

theorem Due.lt {s : Tiers E Out L} {i : Nat} {w : Work E Out} (h : s.Due i w) :
    i < s.tasks.length := by
  obtain ⟨c, hc⟩ := h
  exact (List.getElem?_eq_some_iff.1 hc).1

theorem Due.result? {s : Tiers E Out L} {i : Nat} {w : Work E Out} (h : s.Due i w) :
    s.result? i = none := by
  obtain ⟨c, hc⟩ := h
  simp [Tiers.result?, hc, Task.result?]

theorem result?_of_length_le {s : Tiers E Out L} {i : Nat} (h : s.tasks.length ≤ i) :
    s.result? i = none := by
  simp [Tiers.result?, List.getElem?_eq_none h]

theorem not_due_of_tasks_nil {s : Tiers E Out L} (h : s.tasks = []) (i : Nat) (w : Work E Out) :
    ¬ s.Due i w := by
  rintro ⟨c, hc⟩
  simp [h] at hc

theorem not_due_of_isQuiet {s : Tiers E Out L} (h : s.isQuiet = true) (i : Nat) (w : Work E Out) :
    ¬ s.Due i w := by
  rintro ⟨c, hc⟩
  have hdone := List.all_eq_true.1 h _ (List.mem_of_getElem? hc)
  simp [Task.isDone, Task.work?] at hdone

@[simp] theorem count_nil (s : Tiers E Out L) (meter : Nat) : s.count meter [] = s := by
  have h : s.meters.modify meter (fun m => m) = s.meters := List.modify_id meter s.meters
  simp [count, h]

theorem flatMap_set_perm {α β : Type} {tasks : List α} {i : Nat} {t u : α} {f : α → List β}
    {given : List β} (hi : tasks[i]? = some t) (h : f t = given ++ f u) :
    (given ++ (tasks.set i u).flatMap f).Perm (tasks.flatMap f) := by
  induction tasks generalizing i with
  | nil => simp at hi
  | cons v rest ih =>
    cases i with
    | zero =>
      obtain rfl : v = t := by simpa using hi
      simp [h]
    | succ i =>
      rw [List.set_cons_succ, List.flatMap_cons, List.flatMap_cons]
      exact List.perm_append_comm_assoc .. |>.trans ((ih (by simpa using hi)).append_left (f v))

theorem map_set_of_eq {α β : Type} {tasks : List α} {i : Nat} {t u : α} {f : α → β}
    (hi : tasks[i]? = some t) (h : f u = f t) : (tasks.set i u).map f = tasks.map f := by
  obtain ⟨hlt, rfl⟩ := List.getElem?_eq_some_iff.1 hi
  rw [List.map_set, h, ← List.getElem_map f (h := by rwa [List.length_map]),
    List.set_getElem_self]

section Ask

variable [Entity E]

theorem ask_keyed (s : Tiers E Out L) (client : Client L) (e : E)
    (f : Key → Tiers E Out L → Tiers E Out L) :
    (match s.resolveKey client e with
      | (.ok k, t) => f k t
      | (.error _, t) => t) =
    let t := s.count client.meter (if (Entity.stamped? e).isSome then [] else [.createKey])
    match Entity.key e with
      | .ok k => f k t
      | .error _ => t := by
  cases hs : Entity.stamped? e with
  | some k => simp [resolveKey, Entity.key, hs]
  | none => cases hd : Key.derive (Entity.parts e) <;>
      simp [resolveKey, deriveKey, Entity.key, hs, hd]

/-- A request measures the derivation of its key and starts its work behind all other work. -/
theorem ask_snd (s : Tiers E Out L) (client : Client L) (r : Request E Out) :
    (s.ask client r).2 =
      let t := s.count client.meter r.derivations
      match r.opening with
        | .ok w => t.start client w
        | .error _ => t := by
  cases r with
  | find parts =>
    cases h : Key.derive parts <;>
      simp [ask, deriveKey, Request.opening, Request.derivations, h, Except.map]
  | save e =>
    have h := s.ask_keyed client e fun k t => t.start client (.saveGrid k (Entity.stamp k e))
    cases hk : Entity.key e <;>
      simp_all [ask, Request.opening, Request.derivations, Except.map] <;> split <;> simp_all
  | remove e =>
    have h := s.ask_keyed client e fun k t => t.start client (.removeGrid k e)
    cases hk : Entity.key e <;>
      simp_all [ask, Request.opening, Request.derivations, Except.map] <;> split <;> simp_all
  | execute e p =>
    have h := s.ask_keyed client e fun k t => t.start client (.execute k p)
    cases hk : Entity.key e <;>
      simp_all [ask, Request.opening, Request.derivations, Except.map] <;> split <;> simp_all
  | refill k e => simp [ask, Request.opening, Request.derivations]
  | load span => simp [ask, Request.opening, Request.derivations]

@[simp] theorem ask_map (s : Tiers E Out L) (client : Client L) (r : Request E Out) :
    (s.ask client r).2.map = s.map := by
  rw [ask_snd]
  cases r.opening <;> rfl

@[simp] theorem ask_store (s : Tiers E Out L) (client : Client L) (r : Request E Out) :
    (s.ask client r).2.store = s.store := by
  rw [ask_snd]
  cases r.opening <;> rfl

theorem ask_tasks (s : Tiers E Out L) (client : Client L) (r : Request E Out) :
    (s.ask client r).2.tasks =
      s.tasks ++ r.opening.toOption.toList.map fun w => ⟨client, .next w⟩ := by
  rw [ask_snd]
  cases r.opening <;> simp [start, count, Except.toOption]

theorem due_ask (s : Tiers E Out L) (client : Client L) (r : Request E Out) (i : Nat)
    (w : Work E Out) :
    (s.ask client r).2.Due i w ↔ s.Due i w ∨ i = s.tasks.length ∧ r.opening = .ok w := by
  simp only [Due, ask_tasks]
  rcases Nat.lt_trichotomy i s.tasks.length with h | h | h
  · rw [List.getElem?_append_left h]
    have : i ≠ s.tasks.length := by omega
    simp [this]
  · subst h
    rw [List.getElem?_append_right (Nat.le_refl _)]
    cases r.opening <;> simp [Except.toOption]
  · rw [List.getElem?_append_right (by omega), List.getElem?_eq_none (by omega : _ ≤ i)]
    have : i ≠ s.tasks.length := by omega
    have hlen : (r.opening.toOption.toList.map fun w : Work E Out =>
        (⟨client, .next w⟩ : Task E Out L)).length ≤ i - s.tasks.length := by
      cases r.opening
      · simp [Except.toOption]
      · simp [Except.toOption]
        omega
    simp [this, List.getElem?_eq_none hlen]

@[simp] theorem result?_ask (s : Tiers E Out L) (client : Client L) (r : Request E Out) (i : Nat) :
    (s.ask client r).2.result? i = s.result? i := by
  rcases Nat.lt_or_ge i s.tasks.length with h | h
  · simp only [result?, ask_tasks, List.getElem?_append_left h]
  · rw [result?_of_length_le h]
    cases ho : r.opening with
    | error err =>
      exact result?_of_length_le (by simpa [ask_tasks, ho, Except.toOption] using h)
    | ok w =>
      rcases Nat.eq_or_lt_of_le h with h | h
      · exact Due.result? ((s.due_ask client r i w).2 (.inr ⟨h.symm, ho⟩))
      · apply result?_of_length_le
        simp [ask_tasks, ho, Except.toOption]
        omega

end Ask

section Call

variable {s : Tiers E Out L} {client : Client L} {m : Move E Out} {i : Nat}

@[simp] theorem apply_map : (s.apply i client m).map = m.map := rfl

@[simp] theorem apply_store : (s.apply i client m).store = m.store := rfl

theorem due_apply (h : i < s.tasks.length) (j : Nat) (w : Work E Out) :
    (s.apply i client m).Due j w ↔
      j = i ∧ m.progress = .next w ∨ j ≠ i ∧ s.Due j w ∨
        s.tasks.length ≤ j ∧ m.spawned[j - s.tasks.length]? = some w := by
  have hlen : (s.tasks.set i ⟨client, m.progress⟩).length = s.tasks.length := List.length_set
  simp only [Due, apply, count]
  rcases Nat.lt_or_ge j s.tasks.length with hj | hj
  · rw [List.getElem?_append_left (by omega)]
    have : ¬ s.tasks.length ≤ j := by omega
    by_cases hij : i = j
    · subst hij
      simp [h, this]
    · simp [hij, Ne.symm hij, this]
  · rw [List.getElem?_append_right (by omega), hlen]
    have : j ≠ i := by omega
    simp [this, hj]

theorem result?_apply (h : i < s.tasks.length) (j : Nat) :
    (s.apply i client m).result? j =
      if j = i then (⟨client, m.progress⟩ : Task E Out L).result? else s.result? j := by
  have hlen : (s.tasks.set i ⟨client, m.progress⟩).length = s.tasks.length := List.length_set
  rcases Nat.lt_or_ge j s.tasks.length with hj | hj
  · simp only [result?, apply, count]
    rw [List.getElem?_append_left (by omega)]
    by_cases hij : i = j
    · subst hij
      simp [h]
    · simp [hij, Ne.symm hij]
  · have : j ≠ i := by omega
    rw [result?_of_length_le hj, if_neg this]
    simp only [result?, apply, count]
    rw [List.getElem?_append_right (by omega)]
    cases hsp : (m.spawned.map fun w => (⟨client, .next w⟩ : Task E Out L))[j - _]? with
    | none => rfl
    | some t =>
      rw [List.getElem?_map] at hsp
      obtain ⟨w, -, rfl⟩ := Option.map_eq_some_iff.1 hsp
      rfl

variable [Entity E]

/-- A call either finds no work to do, or makes the move of the work that is due. -/
theorem call_cases (s : Tiers E Out L) (i : Nat) (c : Conduct E) :
    (∀ w, ¬ s.Due i w) ∧ s.call i c = s ∨
      ∃ client w, s.Due i w ∧ s.call i c =
        s.apply i client (w.advance i client.listener.isSome s.map s.store c) := by
  unfold call
  cases ht : s.tasks[i]? with
  | none => exact .inl ⟨by rintro w ⟨d, hd⟩; simp [ht] at hd, rfl⟩
  | some t =>
    obtain ⟨client, progress⟩ := t
    cases progress with
    | done r => exact .inl ⟨by rintro w ⟨d, hd⟩; simp [ht] at hd, rfl⟩
    | next w => exact .inr ⟨client, w, ⟨client, ht⟩, rfl⟩

/-- What a task came to is never changed. -/
theorem result?_call {r : Result (Answer E Out)} (c : Conduct E) {j : Nat}
    (h : s.result? j = some r) : (s.call i c).result? j = some r := by
  rcases s.call_cases i c with ⟨-, hs⟩ | ⟨client, w, hw, hs⟩
  · rw [hs, h]
  · have : j ≠ i := by
      rintro rfl
      simp [hw.result?] at h
    rw [hs, result?_apply hw.lt, if_neg this, h]

theorem result?_run {r : Result (Answer E Out)} (events : List (Event E Out L)) {j : Nat}
    (h : s.result? j = some r) : (s.run events).result? j = some r := by
  induction events generalizing s with
  | nil => exact h
  | cons e rest ih =>
    apply ih
    cases e with
    | ask client request => simpa [step] using h
    | call k c => exact result?_call c h
    | lose k => exact h

end Call

end Tiers

end CacheAside
