import CacheAside.Proofs.Access.Writes
import CacheAside.Proofs.Map.Calls
/-!
Finds, call by call. A find that the grid has an entry for resolves with it and calls nothing else.
In every other case, also when the grid fails or crashes, it resolves as the store's read ends. The
refill is begun after that, and nothing that becomes of it is seen by the find. All this holds of
every find in every run, whatever else happens between its calls.
-/

set_option autoImplicit false

namespace CacheAside

variable {E Out L : Type}

def Conduct.gridRead (map : EntryMap E) (k : Key) : Conduct E → Ending Fault (Option E)
  | .serve | .refuse => .value (map.get? k)
  | .answer found => .value found
  | .fail f => .error f
  | .crash text => .crash text

def Conduct.storeRead (store : RowStore E) (parts : List KeyPart) :
    Conduct E → Ending Fault (Option E)
  | .serve | .refuse => .ofExcept (store.find parts).1
  | .answer found => .value found
  | .fail f => .error f
  | .crash text => .crash text

structure Fetched (E : Type) where
  task : Nat
  tier : Tier
  ending : Ending Fault (Option E)

def Work.fetched? (map : EntryMap E) (store : RowStore E) (x : Called E Out) :
    Option (Fetched E) :=
  match x.work with
  | .readGrid k _ => some ⟨x.task, .grid, x.conduct.gridRead map k⟩
  | .readStore _ parts => some ⟨x.task, .store, x.conduct.storeRead store parts⟩
  | _ => none

theorem Work.task_of_fetched? {map : EntryMap E} {store : RowStore E} {x : Called E Out}
    {f : Fetched E} (h : Work.fetched? map store x = some f) : f.task = x.task := by
  obtain ⟨i, v, c⟩ := x
  cases v <;> cases h <;> rfl

namespace Tiers

def fetched (s : Tiers E Out L) (ev : Event E Out L) : List (Fetched E) :=
  (s.made ev).filterMap (Work.fetched? s.map s.store)

def fetches [Entity E] (s : Tiers E Out L) : List (Event E Out L) → List (Fetched E)
  | [] => []
  | ev :: rest => s.fetched ev ++ (s.step ev).fetches rest

theorem filter_fetched (s : Tiers E Out L) (n : Nat) (ev : Event E Out L) :
    (s.fetched ev).filter (·.task = n) =
      ((s.made ev).filter (·.task = n)).filterMap (Work.fetched? s.map s.store) := by
  rw [fetched]
  induction s.made ev with
  | nil => rfl
  | cons x rest ih =>
    cases hx : Work.fetched? s.map s.store x with
    | none => by_cases hn : x.task = n <;> simp [hx, hn, ih]
    | some f =>
      have := Work.task_of_fetched? hx
      by_cases hn : x.task = n <;> simp [hx, hn, this, ih]

end Tiers

namespace Find

open Tiers

variable [Entity E]

/-- What a find resolves with that had to read the store. -/
def outcome (k : Key) (r : Ending Fault (Option E)) : Result (Answer E Out) :=
  (r.surfaced .store).map fun found => .entity (found.map (Entity.stamp k))

section Moves

variable (number : Nat) (listening : Bool) (map : EntryMap E) (store : RowStore E) (c : Conduct E)
  (k : Key) (parts : List KeyPart)

variable (Out) in
theorem advance_readGrid :
    let m := (.readGrid k parts : Work E Out).advance number listening map store c
    m.map = map ∧ m.store = store ∧ m.spawned = [] ∧
      ((∃ e, c.gridRead map k = .value (some e) ∧ m.progress = .done (.ok (.entity (some e)))) ∨
        (∀ e, c.gridRead map k ≠ .value (some e)) ∧ m.progress = .next (.readStore k parts)) := by
  cases c with
  | serve | refuse =>
    cases h : map.get? k <;> simp [Work.advance, Work.readAnswer, Conduct.gridRead, h]
  | answer found => cases found <;> simp [Work.advance, Work.readAnswer, Conduct.gridRead]
  | fail | crash => simp [Work.advance, Work.readAnswer, Conduct.gridRead]

def refill? (k : Key) : Ending Fault (Option E) → Option (Work E Out)
  | .value (some e) => some (.refill k (Entity.stamp k e))
  | _ => none

variable (Out) in
theorem afterStoreRead_eq (r : Except Fault (Option E) × RowStore E) :
    let m : Move E Out := Work.afterStoreRead map k r
    m.map = map ∧ m.store = r.2 ∧ m.progress = .done (outcome k (.ofExcept r.1)) ∧
      m.spawned = (refill? k (.ofExcept r.1)).toList := by
  obtain ⟨_ | _ | e, after⟩ := r <;> exact ⟨rfl, rfl, rfl, rfl⟩

variable (Out) in
theorem advance_readStore :
    let m := (.readStore k parts : Work E Out).advance number listening map store c
    m.map = map ∧ m.store.rows = store.rows ∧
      m.progress = .done (outcome k (c.storeRead store parts)) ∧
      m.spawned = (refill? k (c.storeRead store parts)).toList := by
  cases c with
  | serve | refuse =>
    obtain ⟨hmap, hstore, hend⟩ := afterStoreRead_eq Out map k (store.find parts)
    have hrows := congrArg RowStore.rows hstore
    exact ⟨hmap, hrows, hend⟩
  | answer found =>
    obtain ⟨hmap, hstore, hend⟩ := afterStoreRead_eq Out map k (.ok found, store)
    have hrows := congrArg RowStore.rows hstore
    exact ⟨hmap, hrows, hend⟩
  | fail | crash => exact ⟨rfl, rfl, rfl, rfl⟩

end Moves

/-- The stages of a find that is task `n`: its calls so far, and what its reads came to. -/
inductive Stage (k : Key) (parts : List KeyPart) (client : Client L) (n : Nat)
    (s : Tiers E Out L) : List (Called E Out) → List (Fetched E) → Prop
  | asked (due : s.DueFor client n (.readGrid k parts)) : Stage k parts client n s [] []
  | hit (c : Conduct E) (e : E) (result : s.result? n = some (.ok (.entity (some e)))) :
    Stage k parts client n s [⟨n, .readGrid k parts, c⟩] [⟨n, .grid, .value (some e)⟩]
  | missed (c : Conduct E) (g : Ending Fault (Option E)) (miss : ∀ e, g ≠ .value (some e))
    (due : s.DueFor client n (.readStore k parts)) :
    Stage k parts client n s [⟨n, .readGrid k parts, c⟩] [⟨n, .grid, g⟩]
  | ended (c d : Conduct E) (g r : Ending Fault (Option E)) (miss : ∀ e, g ≠ .value (some e))
    (result : s.result? n = some (outcome k r)) :
    Stage k parts client n s [⟨n, .readGrid k parts, c⟩, ⟨n, .readStore k parts, d⟩]
      [⟨n, .grid, g⟩, ⟨n, .store, r⟩]

section Stage

variable {k : Key} {parts : List KeyPart} {client : Client L} {n : Nat} {s t : Tiers E Out L}
  {own : List (Called E Out)} {reads : List (Fetched E)}

theorem Stage.of_frame (h : Stage k parts client n s own reads)
    (due : ∀ other v, s.DueFor other n v → t.DueFor other n v)
    (result : ∀ r, s.result? n = some r → t.result? n = some r) :
    Stage k parts client n t own reads := by
  cases h with
  | asked hdue => exact .asked (due _ _ hdue)
  | hit c e hresult => exact .hit c e (result _ hresult)
  | missed c g miss hdue => exact .missed c g miss (due _ _ hdue)
  | ended c d g r miss hresult => exact .ended c d g r miss (result _ hresult)

theorem Stage.call_self (h : Stage k parts client n s own reads) {other : Client L}
    {v : Work E Out} (hv : s.DueFor other n v) (c : Conduct E) :
    Stage k parts client n (s.call n c) (own ++ [⟨n, v, c⟩])
      (reads ++ (Work.fetched? s.map s.store ⟨n, v, c⟩).toList) := by
  cases h with
  | hit _ _ result => simp [hv.due.result?] at result
  | ended _ _ _ _ _ result => simp [hv.due.result?] at result
  | asked due =>
    obtain ⟨rfl, rfl⟩ := hv.unique due
    obtain ⟨-, -, -, hend⟩ :=
      advance_readGrid Out n other.listener.isSome s.map s.store c k parts
    rw [call_of_dueFor due]
    rcases hend with ⟨e, hread, hprog⟩ | ⟨miss, hprog⟩
    · simp only [List.nil_append, Work.fetched?, hread, Option.toList_some]
      refine .hit c e ?_
      rw [result?_apply due.lt, if_pos rfl, hprog]
      rfl
    · refine .missed c _ miss ?_
      rw [DueFor, getElem?_tasks_apply due.lt, if_pos rfl, hprog]
  | missed b g miss due =>
    obtain ⟨rfl, rfl⟩ := hv.unique due
    obtain ⟨-, -, hprog, -⟩ :=
      advance_readStore Out n other.listener.isSome s.map s.store c k parts
    rw [call_of_dueFor due]
    refine .ended b c g _ miss ?_
    rw [result?_apply due.lt, if_pos rfl, hprog]
    rfl

theorem Stage.step (h : Stage k parts client n s own reads) (ev : Event E Out L) :
    Stage k parts client n (s.step ev) (own ++ (s.made ev).filter (·.task = n))
      (reads ++ (s.fetched ev).filter (·.task = n)) := by
  rw [filter_fetched]
  rcases s.own_or_frame n ev with ⟨c, other, v, rfl, hv⟩ | ⟨⟨hmade, -⟩, due, result⟩
  · have hself := h.call_self hv c
    rw [made_of_due hv.due]
    cases hf : Work.fetched? s.map s.store ⟨n, v, c⟩ <;> simpa [hf, Tiers.step] using hself
  · rw [hmade]
    simpa using h.of_frame due result

theorem Stage.run (h : Stage k parts client n s own reads) (events : List (Event E Out L)) :
    Stage k parts client n (s.run events) (own ++ (s.calls events).filter (·.task = n))
      (reads ++ (s.fetches events).filter (·.task = n)) := by
  induction events generalizing s own reads with
  | nil => simpa [Tiers.run, calls, fetches] using h
  | cons ev rest ih =>
    have := ih (h.step ev)
    simpa [Tiers.run, calls, fetches, List.filter_append, List.append_assoc] using this

theorem Stage.ask (s : Tiers E Out L) (client : Client L) (hk : Key.derive parts = .ok k) :
    Stage k parts client s.tasks.length (s.ask client (.find parts)).2 [] [] :=
  .asked (dueFor_ask_self (Request.opening_find hk))

end Stage

structure GridCall (before after : Tiers E Out L) : Prop where
  map : after.map = before.map
  store : after.store = before.store
  alone : after.tasks.length = before.tasks.length

/-- What the call of a find to the store does, if the read comes to `r`: at most a refill is begun,
and nothing that is done later has a part in the result. -/
structure StoreCall (k : Key) (n : Nat) (r : Ending Fault (Option E))
    (before after : Tiers E Out L) : Prop where
  map : after.map = before.map
  rows : after.store.rows = before.store.rows
  started : ∀ i w, before.tasks.length ≤ i →
    (after.Due i w ↔ i = before.tasks.length ∧ refill? k r = some w)
  resolved : ∀ later, (after.run later).result? n = some (outcome k r)

structure RefillCall (k : Key) (x : E) (c : Conduct E) (before after : Tiers E Out L) : Prop where
  store : after.store = before.store
  elsewhere : ∀ l, l ≠ k → after.map.get? l = before.map.get? l
  entry : after.map.get? k = before.map.get? k ∨
    before.map.get? k = none ∧ after.map.get? k = some x
  failed : c.gridEnding ≠ .value () → after.map = before.map

section Calls

variable {k : Key} {parts : List KeyPart} {client : Client L} {n : Nat} {s t : Tiers E Out L}
  {own : List (Called E Out)} {reads : List (Fetched E)} {x : E}

theorem gridCall_of_due (due : t.Due n (.readGrid k parts)) (c : Conduct E) :
    GridCall t (t.call n c) := by
  obtain ⟨client, due⟩ : ∃ client, t.DueFor client n (.readGrid k parts) := due
  obtain ⟨hmap, hstore, hspawned, -⟩ :=
    advance_readGrid Out n client.listener.isSome t.map t.store c k parts
  rw [call_of_dueFor due]
  refine ⟨hmap, hstore, ?_⟩
  simp [apply, count, hspawned]

theorem storeCall_of_due (due : t.Due n (.readStore k parts)) (c : Conduct E) :
    StoreCall k n (c.storeRead t.store parts) t (t.call n c) := by
  obtain ⟨client, due⟩ : ∃ client, t.DueFor client n (.readStore k parts) := due
  obtain ⟨hmap, hrows, hprog, hspawned⟩ :=
    advance_readStore Out n client.listener.isSome t.map t.store c k parts
  rw [call_of_dueFor due]
  refine ⟨hmap, hrows, fun i w hi => ?_, fun later => result?_run later ?_⟩
  · have hne : i ≠ n := Nat.ne_of_gt (Nat.lt_of_lt_of_le due.lt hi)
    have hnot : ¬t.Due i w := fun h => Nat.not_lt.2 hi h.lt
    rw [due_apply due.lt, hspawned]
    cases refill? k (c.storeRead t.store parts) <;>
      simp [hne, hnot, hi, List.getElem?_singleton]
    omega
  · rw [result?_apply due.lt, if_pos rfl, hprog]
    rfl

omit [Entity E] in
theorem get?_insertIfAbsent_cases (map : EntryMap E) (k : Key) (x : E) :
    (map.submit k (.insertIfAbsent x)).2.get? k = map.get? k ∨
      map.get? k = none ∧ (map.submit k (.insertIfAbsent x)).2.get? k = some x := by
  cases hr : map.policy.retains with
  | true =>
    rw [EntryMap.get?_insertIfAbsent hr, if_pos rfl]
    cases map.get? k with
    | none => exact .inr ⟨rfl, rfl⟩
    | some e => exact .inl rfl
  | false =>
    left
    cases hk : map.get? k <;>
      simp [EntryMap.submit, Processor.insertIfAbsent, hk, EntryMap.settle, EntryMap.put, hr]

theorem refillCall_of_due (due : t.Due n (.refill k x)) (c : Conduct E) :
    RefillCall k x c t (t.call n c) := by
  obtain ⟨client, due⟩ : ∃ client, t.DueFor client n (.refill k x) := due
  rw [call_of_dueFor due]
  cases c with
  | serve | refuse | answer =>
    exact ⟨rfl, fun l hl => EntryMap.get?_submit_of_ne (Ne.symm hl) _,
      get?_insertIfAbsent_cases t.map k x, fun h => absurd rfl h⟩
  | fail | crash => exact ⟨rfl, fun _ _ => rfl, .inl rfl, fun _ => rfl⟩

/-- A refill waits for its call, and is over with it. -/
theorem refill_run (due : t.DueFor client n (.refill k x)) (later : List (Event E Out L)) :
    (t.run later).DueFor client n (.refill k x) ∨
      (t.run later).result? n = some (.ok .nothing) := by
  induction later generalizing t with
  | nil => exact .inl due
  | cons ev rest ih =>
    rcases t.own_or_frame n ev with ⟨c, other, v, rfl, hv⟩ | ⟨-, hdue, -⟩
    · obtain ⟨rfl, rfl⟩ := hv.unique due
      right
      refine result?_run rest ?_
      obtain ⟨-, -, hprog, -⟩ :=
        @Work.advance_refill E Out _ n other.listener.isSome t.map t.store c k x
      rw [Tiers.step, call_of_dueFor due, result?_apply due.lt, if_pos rfl, hprog]
      rfl
    · exact ih (hdue _ _ due)

/-- A find never ends with an error of the grid. -/
theorem Stage.not_grid (h : Stage k parts client n t own reads) {r : Result (Answer E Out)}
    (finished : t.result? n = some r) (f : Fault) : r ≠ .error (.tier .grid f) := by
  cases h with
  | asked due => simp [due.due.result?] at finished
  | missed c g miss due => simp [due.due.result?] at finished
  | hit c e result =>
    rw [result] at finished
    cases finished
    exact nofun
  | ended c d g r miss result =>
    rw [result] at finished
    cases finished
    cases r <;> simp [outcome, Ending.surfaced, Except.map]

end Calls

/-- A find resolves with the entry of the grid, and else as its read of the store ended, stamped
with its key. Its calls change nothing; the refill that they may begin changes at most the entry of
that key, from none to the stamped entity, and has no part in the result. -/
theorem resolves_as_read (s : Tiers E Out L) (client : Client L) (parts : List KeyPart)
    (events : List (Event E Out L)) :
    let n := s.tasks.length
    let s' := (s.ask client (.find parts)).2
    let t := s'.run events
    let own := (s'.calls events).filter (·.task = n)
    let reads := (s'.fetches events).filter (·.task = n)
    match Key.derive parts with
    | .error err =>
      (s.ask client (.find parts)).1 = .error (.keyDerivation (Entity.kind E) err.message) ∧
        s'.tasks = s.tasks ∧ s'.map = s.map ∧ s'.store = s.store
    | .ok k =>
      Stage k parts client n t own reads ∧
        (∀ r, t.result? n = some r → ∀ f, r ≠ .error (.tier .grid f)) ∧
        (t.Due n (.readGrid k parts) → ∀ c, GridCall t (t.call n c)) ∧
        (t.Due n (.readStore k parts) → ∀ c,
          StoreCall k n (c.storeRead t.store parts) t (t.call n c) ∧
            ∀ e, c.storeRead t.store parts = .value (some e) → ∀ later,
              let v := (t.call n c).run later
              let m := t.tasks.length
              let x := Entity.stamp k e
              v.Due m (.refill k x) ∧ (∀ d, RefillCall k x d v (v.call m d)) ∨
                v.result? m = some (.ok .nothing)) := by
  intro n s' t own reads
  cases hk : Key.derive parts with
  | error err =>
    have ho : (.find parts : Request E Out).opening = .error err := Request.opening_find_error hk
    refine ⟨?_, ?_, ask_map .., ask_store ..⟩
    · simp [ask, deriveKey, hk]
    · simp [s', ask_tasks, ho, Except.toOption]
  | ok k =>
    dsimp only
    have stage : Stage k parts client n t own reads := by
      simpa using (Stage.ask s client hk).run events
    refine ⟨stage, fun r hr => stage.not_grid hr, gridCall_of_due, fun due c => ?_⟩
    have hcall := storeCall_of_due due c
    refine ⟨hcall, fun e he later => ?_⟩
    obtain ⟨other, hm⟩ := (hcall.started _ (.refill k (Entity.stamp k e)) (Nat.le_refl _)).2
      ⟨rfl, by rw [he]; rfl⟩
    rcases refill_run hm later with hdue | hdone
    · exact .inl ⟨hdue.due, refillCall_of_due hdue.due⟩
    · exact .inr hdone

namespace Shaken

open Item

def idle : Tiers Item Unit Unit :=
  .create ⟨"items", .bulk, ∅⟩ (RowStore.empty.seed [sample "kept"]).2

def asked : Tiers Item Unit Unit :=
  (idle.ask .first (.find [.int 7])).2

def events : List (Event Item Unit Unit) :=
  [.call 0 (.crash "get"), .call 0 .serve, .call 1 (.crash "submit")]

theorem found_all_the_same :
    (asked.run events).result? 0 = some (.ok (.entity (some (stampedSample "kept")))) ∧
      (asked.run events).map.get? sampleKey = none ∧
      StoreCall sampleKey 0 (.value (some (sample "kept"))) (asked.call 0 (.crash "get"))
        ((asked.call 0 (.crash "get")).call 0 .serve) := by
  have first := resolves_as_read idle .first [.int 7] []
  have second := resolves_as_read idle .first [.int 7] [.call 0 (.crash "get")]
  simp only [derive_sample] at first second
  obtain ⟨-, -, grid, -⟩ := first
  obtain ⟨-, -, -, store⟩ := second
  obtain ⟨called, refilled⟩ := store ⟨.first, rfl⟩ .serve
  refine ⟨called.resolved [.call 1 (.crash "submit")], ?_, called⟩
  have missed : (asked.call 0 (.crash "get")).map = asked.map :=
    (grid ⟨.first, rfl⟩ (.crash "get")).map
  have read : ((asked.call 0 (.crash "get")).call 0 .serve).map =
      (asked.call 0 (.crash "get")).map := called.map
  obtain ⟨-, refill⟩ | done := refilled (sample "kept") rfl []
  · have unfilled : (asked.run events).map = ((asked.call 0 (.crash "get")).call 0 .serve).map :=
      (refill (.crash "submit")).failed (by simp [Conduct.gridEnding])
    rw [unfilled, read, missed]
    rfl
  · cases done

end Shaken

end Find

end CacheAside
