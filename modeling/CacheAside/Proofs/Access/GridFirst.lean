import CacheAside.Proofs.Access.Writes

set_option autoImplicit false

namespace CacheAside.Write

open Tiers

variable {E Out L : Type}

structure GridCall (w : Write) (k : Key) (e : E) (c : Conduct E) (before after : Tiers E Out L) :
    Prop where
  store : after.store = before.store
  elsewhere : ∀ l, l ≠ k → after.map.get? l = before.map.get? l
  failed : c.gridEnding ≠ .value () → after.map = before.map
  served : c.gridEnding = .value () → after.map = w.onGrid before.map k e
  entry : c.gridEnding = .value () → before.map.policy.retains = true →
    after.map.get? k = w.entry e

variable [Entity E]

structure StoreCall (w : Write) (e : E) (c : Conduct E) (before after : Tiers E Out L) : Prop where
  map : after.map = before.map
  store : after.store = (w.reply before.store e c).2

variable {w : Write} {k : Key} {e : E} {client : Client L} {n : Nat} {t : Tiers E Out L}
  {own : List (Called E Out)} {back : List (Nat × Ending Fault Bool)}

theorem gridCall_of_due (due : t.Due n (w.gridWork k e)) (c : Conduct E) :
    w.GridCall k e c t (t.call n c) := by
  obtain ⟨client, due⟩ : ∃ client, t.DueFor client n (w.gridWork k e) := due
  obtain ⟨hstore, -, -, hend⟩ :=
    advance_gridWork Out w n client.listener.isSome t.map t.store c k e
  rw [call_of_dueFor due]
  rcases hend with ⟨served, hmap, -⟩ | ⟨err, failed, hmap, -⟩
  · have served := (surfaced_grid_eq_ok_iff c).1 served
    refine ⟨hstore, fun l hl => ?_, fun hf => absurd served hf, fun _ => hmap, fun _ hr => ?_⟩
    · rw [apply_map, hmap, w.get?_onGrid_of_ne t.map hl]
    · rw [apply_map, hmap, w.get?_onGrid hr]
  · have failed : c.gridEnding ≠ .value () := fun hv => by simp [hv, Ending.surfaced] at failed
    refine ⟨hstore, fun l _ => ?_, fun _ => hmap, fun hv => absurd hv failed,
      fun hv => absurd hv failed⟩
    rw [apply_map, hmap]

theorem storeCall_of_due (due : t.Due n (w.storeWork k e)) (c : Conduct E) :
    w.StoreCall e c t (t.call n c) := by
  obtain ⟨client, due⟩ : ∃ client, t.DueFor client n (w.storeWork k e) := due
  obtain ⟨hmap, hstore, -⟩ :=
    advance_storeWork Out w n client.listener.isSome t.map t.store c k e
  rw [call_of_dueFor due]
  exact ⟨hmap, hstore⟩

omit [Entity E] in
theorem gridWork_ne_storeWork (w : Write) (k : Key) (e : E) :
    (w.gridWork k e : Work E Out) ≠ w.storeWork k e := by
  cases w <;> exact fun h => nomatch h

omit [Entity E] in
/-- A write that is over has called the store if and only if the grid took it. -/
theorem Stage.called_iff (h : w.Stage k e client n t own back) {r : Result (Answer E Out)}
    (finished : t.result? n = some r) :
    (∃ d, ⟨n, w.storeWork k e, d⟩ ∈ own) ↔
      ∃ c, ⟨n, w.gridWork k e, c⟩ ∈ own ∧ c.gridEnding = .value () := by
  have hne : (w.gridWork k e : Work E Out) ≠ w.storeWork k e := gridWork_ne_storeWork w k e
  cases h with
  | asked due => simp [due.due.result?] at finished
  | taken c served due => simp [due.due.result?] at finished
  | refused c err failed result =>
    have failed : c.gridEnding ≠ .value () := fun hv => by simp [hv, Ending.surfaced] at failed
    simp [hne.symm, failed]
  | ended c d reply served result =>
    have served := (surfaced_grid_eq_ok_iff c).1 served
    exact iff_of_true ⟨d, by simp⟩ ⟨c, by simp, served⟩

/-- A write calls the grid, and the store if and only if the grid took it. It ends with the error
of the call that failed, else with what the store said. The grid's call changes nothing but its
own entry, and that only if it ends well; the store's call leaves the grid as it is. -/
theorem gated_by_grid (w : Write) (s : Tiers E Out L) (client : Client L) (e : E)
    (events : List (Event E Out L)) :
    let n := s.tasks.length
    let s' := (s.ask client (w.request e)).2
    let t := s'.run events
    let own := (s'.calls events).filter (·.task = n)
    let back := (s'.replies events).filter (·.1 = n)
    match Entity.key e with
    | .error _ => s'.tasks = s.tasks ∧ s'.map = s.map ∧ s'.store = s.store
    | .ok k =>
      let x := w.subject k e
      w.Stage k x client n t own back ∧
        (∀ r, t.result? n = some r →
          ((∃ d, ⟨n, w.storeWork k x, d⟩ ∈ own) ↔
            ∃ c, ⟨n, w.gridWork k x, c⟩ ∈ own ∧ c.gridEnding = .value ())) ∧
        (t.Due n (w.gridWork k x) → ∀ c, w.GridCall k x c t (t.call n c)) ∧
        (t.Due n (w.storeWork k x) → ∀ c, w.StoreCall x c t (t.call n c)) := by
  intro n s' t own back
  cases hk : Entity.key e with
  | error err =>
    have ho : (w.request e : Request E Out).opening = .error err := w.opening_request_error hk
    simp [s', ask_tasks, ho, Except.toOption]
  | ok k =>
    dsimp only
    have stage : w.Stage k (w.subject k e) client n t own back := by
      simpa using (Stage.ask s client w hk).run events
    exact ⟨stage, fun r hr => stage.called_iff hr, gridCall_of_due, storeCall_of_due⟩

namespace Crossed

open Item

def saving : Tiers Item Unit Unit :=
  ((Tiers.create ⟨"items", .bulk, ∅⟩ .empty).ask .first (.save (stampedSample "new"))).2

def between : List (Event Item Unit Unit) :=
  [.call 0 .serve, .ask .first (.remove (stampedSample "new")), .call 1 .serve]

def down : Fault :=
  (Fault.ofText "socket closed").within "store.save failed"

def events : List (Event Item Unit Unit) :=
  between ++ [.call 0 (.fail down)]

theorem store_called :
    (saving.run events).result? 0 = some (.error (.tier .store down)) ∧
      (∃ d, ⟨0, .saveStore sampleKey (stampedSample "new"), d⟩ ∈
        (saving.calls events).filter (·.task = 0)) ∧
      Write.save.GridCall sampleKey (stampedSample "new") .serve saving (saving.call 0 .serve) ∧
      Write.save.StoreCall (stampedSample "new") (.fail down) (saving.run between)
        ((saving.run between).call 0 (.fail down)) := by
  have result : (saving.run events).result? 0 = some (.error (.tier .store down)) := rfl
  obtain ⟨-, called, -⟩ := gated_by_grid .save _ .first (stampedSample "new") events
  obtain ⟨-, -, grid, -⟩ := gated_by_grid .save _ .first (stampedSample "new") []
  obtain ⟨-, -, -, store⟩ := gated_by_grid .save _ .first (stampedSample "new") between
  refine ⟨result, (called _ result).2 ⟨.serve, .head _, rfl⟩, ?_, ?_⟩
  · exact grid ⟨_, rfl⟩ .serve
  · exact store ⟨_, rfl⟩ (.fail down)

end Crossed

end CacheAside.Write
