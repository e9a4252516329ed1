import CacheAside.Proofs.Access.History

set_option autoImplicit false

namespace CacheAside

variable {E Out L : Type}

def Ending.surfaced {α : Type} (tier : Tier) : Ending Fault α → Result α
  | .value a => .ok a
  | .error f => .error (.tier tier f)
  | .crash _ => .error .abandoned

def Conduct.gridEnding : Conduct E → Ending Fault Unit
  | .serve | .refuse | .answer _ => .value ()
  | .fail f => .error f
  | .crash text => .crash text

inductive Write where
  | save
  | remove
  deriving DecidableEq, Repr

namespace Write

theorem surfaced_grid_eq_ok_iff (c : Conduct E) :
    c.gridEnding.surfaced .grid = .ok () ↔ c.gridEnding = .value () := by
  cases c <;> simp [Conduct.gridEnding, Ending.surfaced]

def request (w : Write) (e : E) : Request E Out :=
  match w with
  | .save => .save e
  | .remove => .remove e

def event : Write → EntryEvent
  | .save => .saved
  | .remove => .removed

def gridWork (w : Write) (k : Key) (e : E) : Work E Out :=
  match w with
  | .save => .saveGrid k e
  | .remove => .removeGrid k e

def storeWork (w : Write) (k : Key) (e : E) : Work E Out :=
  match w with
  | .save => .saveStore k e
  | .remove => .removeStore k e

def onGrid (w : Write) (map : EntryMap E) (k : Key) (e : E) : EntryMap E :=
  match w with
  | .save => (map.submit k (.replace e)).2
  | .remove => (map.remove k).2

/-- The entry that a write leaves in a map that keeps entries. -/
def entry (w : Write) (e : E) : Option E :=
  match w with
  | .save => some e
  | .remove => none

theorem get?_onGrid_of_ne (w : Write) (map : EntryMap E) {k l : Key} (h : l ≠ k) (e : E) :
    (w.onGrid map k e).get? l = map.get? l := by
  cases w with
  | save =>
    cases hr : map.policy.retains with
    | true => exact (map.get?_put hr k l e).trans (if_neg (Ne.symm h))
    | false => simp [onGrid, EntryMap.submit, Processor.replace, EntryMap.settle, EntryMap.put, hr]
  | remove => exact (map.get?_lose k l).trans (if_neg (Ne.symm h))

theorem get?_onGrid (w : Write) {map : EntryMap E} (hr : map.policy.retains = true) (k : Key)
    (e : E) : (w.onGrid map k e).get? k = w.entry e := by
  cases w with
  | save => exact (map.get?_put hr k k e).trans (if_pos rfl)
  | remove => exact (map.get?_lose k k).trans (if_pos rfl)

variable [Entity E]

/-- The entity that a write is made with: one that is saved is stamped. -/
def subject (w : Write) (k : Key) (e : E) : E :=
  match w with
  | .save => Entity.stamp k e
  | .remove => e

def onStore (w : Write) (store : RowStore E) (e : E) : Except Fault Bool × RowStore E :=
  match w with
  | .save => store.save e
  | .remove => store.remove e

def reply (w : Write) (store : RowStore E) (e : E) : Conduct E → Ending Fault Bool × RowStore E
  | .serve | .answer _ => (.ofExcept (w.onStore store e).1, (w.onStore store e).2)
  | .refuse => (.value false, store)
  | .fail f => (.error f, store)
  | .crash text => (.crash text, store)

theorem opening_request (w : Write) {e : E} {k : Key} (hk : Entity.key e = .ok k) :
    (w.request e : Request E Out).opening = .ok (w.gridWork k (w.subject k e)) := by
  cases w with
  | save => exact Request.opening_save hk
  | remove => exact Request.opening_remove hk

theorem opening_request_error (w : Write) {e : E} {err : KeyError}
    (hk : Entity.key e = .error err) :
    (w.request e : Request E Out).opening = .error err := by
  cases w with
  | save => exact Request.opening_save_error hk
  | remove => exact Request.opening_remove_error hk

section Moves

variable (Out) (w : Write) (number : Nat) (listening : Bool) (map : EntryMap E)
  (store : RowStore E) (c : Conduct E) (k : Key) (e : E)

/-- The grid's part: it is taken and the store comes next, or it fails without effect. -/
theorem advance_gridWork :
    let m := (w.gridWork k e : Work E Out).advance number listening map store c
    m.store = store ∧ m.spawned = [] ∧ m.heard = none ∧
      (c.gridEnding.surfaced .grid = .ok () ∧ m.map = w.onGrid map k e ∧
          m.progress = .next (w.storeWork k e) ∨
        ∃ err, c.gridEnding.surfaced .grid = .error err ∧ m.map = map ∧
          m.progress = .done (.error err)) := by
  cases w <;> cases c <;>
    simp [gridWork, storeWork, onGrid, Work.advance, Work.failure, Conduct.gridEnding,
      Ending.surfaced]

omit [Entity E] in
theorem afterStoreWrite_eq (ev : EntryEvent) (signal : Signal)
    (r : Except Fault Bool × RowStore E) :
    let m : Move E Out := Work.afterStoreWrite map number listening ev signal e r
    m.map = map ∧ m.store = r.2 ∧ m.heard = none ∧
      m.progress = .done (((Ending.ofExcept r.1).surfaced .store).map .applied) ∧
      m.spawned = if Ending.ofExcept r.1 = .value true ∧ listening = true then
        [.notify number ev e] else [] := by
  obtain ⟨_ | applied, after⟩ := r
  · simp [Work.afterStoreWrite, Ending.ofExcept, Ending.surfaced, Except.map]
  · cases applied <;>
      simp [Work.afterStoreWrite, Ending.ofExcept, Ending.surfaced, Except.map]

/-- The store's part: the write ends with the reply, and the listener is told of a commit. -/
theorem advance_storeWork :
    let m := (w.storeWork k e : Work E Out).advance number listening map store c
    m.map = map ∧ m.store = (w.reply store e c).2 ∧ m.heard = none ∧
      m.progress = .done (((w.reply store e c).1.surfaced .store).map .applied) ∧
      m.spawned = if (w.reply store e c).1 = .value true ∧ listening = true then
        [.notify number w.event e] else [] := by
  cases c with
  | serve | answer =>
    cases w
    · exact afterStoreWrite_eq Out number listening map e .saved .save (store.save e)
    · exact afterStoreWrite_eq Out number listening map e .removed .remove (store.remove e)
  | refuse | fail | crash =>
    cases w <;>
      simp [storeWork, Work.advance, Work.failure, Work.afterStoreWrite, reply, Ending.surfaced,
        Except.map]

end Moves

end Write

def Work.reply? [Entity E] (store : RowStore E) (c : Conduct E) :
    Work E Out → Option (Ending Fault Bool)
  | .saveStore _ e => some (Write.save.reply store e c).1
  | .removeStore _ e => some (Write.remove.reply store e c).1
  | _ => none

namespace Tiers

def DueFor (s : Tiers E Out L) (client : Client L) (i : Nat) (w : Work E Out) : Prop :=
  s.tasks[i]? = some ⟨client, .next w⟩

section DueFor

variable {s : Tiers E Out L} {client : Client L} {m : Move E Out} {i : Nat} {v : Work E Out}

theorem DueFor.due (h : s.DueFor client i v) : s.Due i v := ⟨client, h⟩

theorem DueFor.lt (h : s.DueFor client i v) : i < s.tasks.length := h.due.lt

theorem DueFor.unique {other : Client L} {w : Work E Out} (hv : s.DueFor client i v)
    (hw : s.DueFor other i w) : client = other ∧ v = w := by
  cases hv.symm.trans hw
  exact ⟨rfl, rfl⟩

theorem getElem?_tasks_apply (h : i < s.tasks.length) (j : Nat) :
    (s.apply i client m).tasks[j]? =
      if j = i then some ⟨client, m.progress⟩
      else if j < s.tasks.length then s.tasks[j]?
      else m.spawned[j - s.tasks.length]?.map fun w => ⟨client, .next w⟩ := by
  have hlen : (s.tasks.set i ⟨client, m.progress⟩).length = s.tasks.length := List.length_set
  simp only [apply, count]
  rcases Nat.lt_or_ge j s.tasks.length with hj | hj
  · rw [List.getElem?_append_left (by omega)]
    by_cases hij : i = j
    · subst hij
      simp [h]
    · simp [hij, Ne.symm hij, hj]
  · have hij : j ≠ i := by omega
    rw [List.getElem?_append_right (by omega), hlen, if_neg hij, if_neg (by omega),
      List.getElem?_map]

theorem DueFor.apply_of_ne (h : s.DueFor client i v) {other : Client L} {j : Nat}
    (hj : j < s.tasks.length) (hij : i ≠ j) : (s.apply j other m).DueFor client i v := by
  rw [DueFor, getElem?_tasks_apply hj, if_neg hij, if_pos h.lt]
  exact h

variable [Entity E]

theorem call_of_dueFor (h : s.DueFor client i v) (c : Conduct E) :
    s.call i c = s.apply i client (v.advance i client.listener.isSome s.map s.store c) := by
  have h : s.tasks[i]? = some ⟨client, .next v⟩ := h
  simp [call, h]

theorem call_dueFor_cases (s : Tiers E Out L) (i : Nat) (c : Conduct E) :
    (∀ w, ¬ s.Due i w) ∧ s.call i c = s ∨ ∃ client w, s.DueFor client i w := by
  rcases s.call_cases i c with idle | ⟨-, w, ⟨client, hw⟩, -⟩
  · exact .inl idle
  · exact .inr ⟨client, w, hw⟩

theorem DueFor.ask (h : s.DueFor client i v) (other : Client L) (r : Request E Out) :
    (s.ask other r).2.DueFor client i v := by
  rw [DueFor, ask_tasks, List.getElem?_append_left h.lt]
  exact h

theorem dueFor_ask_self {r : Request E Out} (hr : r.opening = .ok v) :
    (s.ask client r).2.DueFor client s.tasks.length v := by
  simp [DueFor, ask_tasks, hr, Except.toOption]

end DueFor

variable [Entity E]

def replied (s : Tiers E Out L) : Event E Out L → List (Nat × Ending Fault Bool)
  | .call i c => ((s.tasks[i]? >>= Task.work?) >>= Work.reply? s.store c).toList.map (i, ·)
  | .ask .. | .lose _ => []

def replies (s : Tiers E Out L) : List (Event E Out L) → List (Nat × Ending Fault Bool)
  | [] => []
  | ev :: rest => s.replied ev ++ (s.step ev).replies rest

theorem replied_of_due {s : Tiers E Out L} {i : Nat} {w : Work E Out} (h : s.Due i w)
    (c : Conduct E) : s.replied (.call i c) = (w.reply? s.store c).toList.map (i, ·) := by
  simp [replied, work?_eq_some_iff.2 h]

theorem replied_of_not_due {s : Tiers E Out L} {i : Nat} (h : ∀ w, ¬ s.Due i w) (c : Conduct E) :
    s.replied (.call i c) = [] := by
  cases hw : s.tasks[i]? >>= Task.work? with
  | none => simp [replied, hw]
  | some w => exact absurd (work?_eq_some_iff.1 hw) (h w)

theorem task_of_mem_replied {s : Tiers E Out L} {i : Nat} {c : Conduct E}
    {x : Nat × Ending Fault Bool} (h : x ∈ s.replied (.call i c)) : x.1 = i := by
  obtain ⟨r, -, rfl⟩ := List.mem_map.1 h
  rfl

theorem filter_replied_self (s : Tiers E Out L) (n : Nat) (c : Conduct E) :
    (s.replied (.call n c)).filter (·.1 = n) = s.replied (.call n c) :=
  List.filter_eq_self.2 fun _ hx => by simp [task_of_mem_replied hx]

theorem filter_replied_of_ne (s : Tiers E Out L) {i n : Nat} (h : i ≠ n) (c : Conduct E) :
    (s.replied (.call i c)).filter (·.1 = n) = [] :=
  List.filter_eq_nil_iff.2 fun _ hx => by simp [task_of_mem_replied hx, h]

/-- An event is a call of a given task, or that task is as before. -/
theorem own_or_frame (s : Tiers E Out L) (n : Nat) (ev : Event E Out L) :
    (∃ c client v, ev = .call n c ∧ s.DueFor client n v) ∨
      ((s.made ev).filter (·.task = n) = [] ∧ (s.replied ev).filter (·.1 = n) = []) ∧
        (∀ client v, s.DueFor client n v → (s.step ev).DueFor client n v) ∧
        ∀ r, s.result? n = some r → (s.step ev).result? n = some r := by
  cases ev with
  | lose l => exact .inr ⟨⟨rfl, rfl⟩, fun _ _ h => h, fun _ h => h⟩
  | ask other r =>
    exact .inr ⟨⟨rfl, rfl⟩, fun _ _ h => h.ask other r, fun x hx => by rwa [step, result?_ask]⟩
  | call i c =>
    rcases s.call_dueFor_cases i c with ⟨hno, hcall⟩ | ⟨other, v, hv⟩
    · rw [made_of_not_due hno, replied_of_not_due hno, step, hcall]
      exact .inr ⟨⟨rfl, rfl⟩, fun _ _ h => h, fun _ h => h⟩
    · by_cases hin : i = n
      · subst hin
        exact .inl ⟨c, other, v, rfl, hv⟩
      · have hmade : (s.made (.call i c)).filter (·.task = n) = [] := by
          simp [made_of_due hv.due, hin]
        refine .inr ⟨⟨hmade, filter_replied_of_ne s hin c⟩, fun client w hw => ?_,
          fun r hr => result?_call c hr⟩
        rw [step, call_of_dueFor hv]
        exact hw.apply_of_ne hv.lt (Ne.symm hin)

theorem replies_append (s : Tiers E Out L) (as bs : List (Event E Out L)) :
    s.replies (as ++ bs) = s.replies as ++ (s.run as).replies bs := by
  induction as generalizing s with
  | nil => rfl
  | cons ev rest ih =>
    have h : s.run (ev :: rest) = (s.step ev).run rest := rfl
    simp only [List.cons_append, replies, ih, h, List.append_assoc]

end Tiers

namespace Write

open Tiers

variable [Entity E]

/-- The stages of a write that is task `n`: its calls so far, and the store's replies to them. -/
inductive Stage (w : Write) (k : Key) (e : E) (client : Client L) (n : Nat) (s : Tiers E Out L) :
    List (Called E Out) → List (Nat × Ending Fault Bool) → Prop
  | asked (due : s.DueFor client n (w.gridWork k e)) : Stage w k e client n s [] []
  | refused (c : Conduct E) (err : AccessError)
    (failed : c.gridEnding.surfaced .grid = .error err)
    (result : s.result? n = some (.error err)) :
    Stage w k e client n s [⟨n, w.gridWork k e, c⟩] []
  | taken (c : Conduct E) (served : c.gridEnding.surfaced .grid = .ok ())
    (due : s.DueFor client n (w.storeWork k e)) :
    Stage w k e client n s [⟨n, w.gridWork k e, c⟩] []
  | ended (c d : Conduct E) (reply : Ending Fault Bool)
    (served : c.gridEnding.surfaced .grid = .ok ())
    (result : s.result? n = some ((reply.surfaced .store).map .applied)) :
    Stage w k e client n s [⟨n, w.gridWork k e, c⟩, ⟨n, w.storeWork k e, d⟩] [(n, reply)]

section Stage

variable {w : Write} {k : Key} {e : E} {client : Client L} {n : Nat} {s t : Tiers E Out L}
  {own : List (Called E Out)} {back : List (Nat × Ending Fault Bool)}

omit [Entity E] in
theorem Stage.of_frame (h : w.Stage k e client n s own back)
    (due : ∀ v, s.DueFor client n v → t.DueFor client n v)
    (result : ∀ r, s.result? n = some r → t.result? n = some r) :
    w.Stage k e client n t own back := by
  cases h with
  | asked hdue => exact .asked (due _ hdue)
  | refused c err failed hresult => exact .refused c err failed (result _ hresult)
  | taken c served hdue => exact .taken c served (due _ hdue)
  | ended c d reply served hresult => exact .ended c d reply served (result _ hresult)

theorem Stage.call_self (h : w.Stage k e client n s own back) {v : Work E Out}
    (hv : s.Due n v) (c : Conduct E) :
    w.Stage k e client n (s.call n c) (own ++ [⟨n, v, c⟩])
      (back ++ (v.reply? s.store c).toList.map (n, ·)) := by
  cases h with
  | refused _ _ _ result => simp [hv.result?] at result
  | ended _ _ _ _ result => simp [hv.result?] at result
  | asked due =>
    obtain rfl := hv.unique due.due
    obtain ⟨-, -, -, ⟨served, -, hprog⟩ | ⟨err, failed, -, hprog⟩⟩ :=
      advance_gridWork Out w n client.listener.isSome s.map s.store c k e
    all_goals
      have hreply : (w.gridWork k e : Work E Out).reply? s.store c = none := by cases w <;> rfl
      rw [call_of_dueFor due, hreply]
    · refine .taken c served ?_
      rw [DueFor, getElem?_tasks_apply due.lt, if_pos rfl, hprog]
    · refine .refused c err failed ?_
      rw [result?_apply due.lt, if_pos rfl, hprog]
      rfl
  | taken b served due =>
    obtain rfl := hv.unique due.due
    obtain ⟨-, -, -, hprog, -⟩ :=
      advance_storeWork Out w n client.listener.isSome s.map s.store c k e
    have hreply : (w.storeWork k e : Work E Out).reply? s.store c =
        some (w.reply s.store e c).1 := by
      cases w <;> rfl
    rw [call_of_dueFor due, hreply]
    refine .ended b c _ served ?_
    rw [result?_apply due.lt, if_pos rfl, hprog]
    rfl

theorem Stage.step (h : w.Stage k e client n s own back) (ev : Event E Out L) :
    w.Stage k e client n (s.step ev) (own ++ (s.made ev).filter (·.task = n))
      (back ++ (s.replied ev).filter (·.1 = n)) := by
  rcases s.own_or_frame n ev with ⟨c, other, v, rfl, hv⟩ | ⟨⟨hmade, hreplied⟩, due, result⟩
  · rw [made_of_due hv.due, filter_replied_self, replied_of_due hv.due]
    simpa [Tiers.step] using h.call_self hv.due c
  · rw [hmade, hreplied, List.append_nil, List.append_nil]
    exact h.of_frame (due client) result

theorem Stage.run (h : w.Stage k e client n s own back) (events : List (Event E Out L)) :
    w.Stage k e client n (s.run events) (own ++ (s.calls events).filter (·.task = n))
      (back ++ (s.replies events).filter (·.1 = n)) := by
  induction events generalizing s own back with
  | nil => simpa [Tiers.run, calls, replies] using h
  | cons ev rest ih =>
    have := ih (h.step ev)
    simpa [Tiers.run, calls, replies, List.filter_append, List.append_assoc] using this

theorem Stage.ask (s : Tiers E Out L) (client : Client L) (w : Write) {e : E} {k : Key}
    (hk : Entity.key e = .ok k) :
    w.Stage k (w.subject k e) client s.tasks.length (s.ask client (w.request e)).2 [] [] :=
  .asked (dueFor_ask_self (w.opening_request hk))

end Stage

end Write

end CacheAside
