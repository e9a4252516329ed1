import Mathlib.Data.List.Basic
import CacheAside.Proofs.Access.Writes
/-!
Listeners and commits. Of a write that the store applied the listener hears exactly once, after
the store has said so and with the entity of the write; of any other work it hears nothing. A
listener that crashes changes nothing else.

What listeners have heard and what they are still to hear are counted together: a call to a
listener turns the one into the other, and only the store's word that it applied a write adds to
the whole.
-/

set_option autoImplicit false

namespace CacheAside

variable {E Out L : Type}

namespace Work

def notice? : Work E Out → Option (Notice E)
  | .notify origin event e => some ⟨origin, event, e⟩
  | _ => none

theorem notice?_of_opening [Entity E] {r : Request E Out} {v : Work E Out}
    (h : r.opening = .ok v) : v.notice? = none := by
  have keyed {x : Except KeyError Key} {f : Key → Work E Out} (hf : ∀ k, (f k).notice? = none)
      (hx : x.map f = .ok v) : v.notice? = none := by
    cases x with
    | error err => cases hx
    | ok k =>
      cases hx
      exact hf k
  cases r with
  | find parts => exact keyed (fun _ => rfl) h
  | save e => exact keyed (fun _ => rfl) h
  | remove e => exact keyed (fun _ => rfl) h
  | execute e p => exact keyed (fun _ => rfl) h
  | refill k e =>
    cases h
    rfl
  | load span =>
    cases h
    rfl

theorem LeadsTo.notice? {v w : Work E Out} (h : v.LeadsTo w) : w.notice? = none := by
  cases h <;> rfl

section Moves

variable [Entity E] (number : Nat) (listening : Bool) (map : EntryMap E) (store : RowStore E)
  (c : Conduct E) (v : Work E Out)

theorem afterStoreRead_silent (k : Key) (r : Except Fault (Option E) × RowStore E) :
    (afterStoreRead map k r : Move E Out).heard = none ∧
      ∀ w ∈ (afterStoreRead map k r : Move E Out).spawned, w.notice? = none := by
  obtain ⟨_ | _ | e, after⟩ := r <;> simp [afterStoreRead, Work.notice?]

/-- The move has the listener told at once what the work is to tell, and later of nothing but the
work of the number, if the store has replied that it applied a write. -/
structure Tells (v : Work E Out) (number : Nat) (reply : Option (Ending Fault Bool))
    (m : Move E Out) : Prop where
  heard : m.heard = v.notice?
  later : ∀ w ∈ m.spawned, ∀ x, w.notice? = some x → x.origin = number ∧ reply = some (.value true)

omit [Entity E] in
theorem Tells.of_silent {number : Nat} {v : Work E Out} {reply : Option (Ending Fault Bool)}
    {m : Move E Out} (heard : m.heard = v.notice?) (silent : ∀ w ∈ m.spawned, w.notice? = none) :
    v.Tells number reply m :=
  ⟨heard, fun w hw x hx => by simp [silent w hw] at hx⟩

theorem tells_storeWork (w : Write) (k : Key) (e : E) :
    (w.storeWork k e : Work E Out).Tells number (some (w.reply store e c).1)
      ((w.storeWork k e).advance number listening map store c) := by
  obtain ⟨-, -, hheard, -, hsp⟩ := Write.advance_storeWork Out w number listening map store c k e
  refine ⟨by rw [hheard]; cases w <;> rfl, fun y hy x hx => ?_⟩
  rw [hsp] at hy
  split at hy
  · rename_i hcommit
    obtain rfl := List.mem_singleton.1 hy
    cases hx
    exact ⟨rfl, by rw [hcommit.1]⟩
  · cases hy

theorem tells_advance :
    v.Tells number (v.reply? store c) (v.advance number listening map store c) := by
  cases v with
  | saveStore k e => exact tells_storeWork number listening map store c .save k e
  | removeStore k e => exact tells_storeWork number listening map store c .remove k e
  | readStore k parts =>
    cases c with
    | fail | crash => exact .of_silent rfl (List.forall_mem_nil _)
    | serve | refuse | answer =>
      exact .of_silent (afterStoreRead_silent ..).1 (afterStoreRead_silent ..).2
  | readGrid k parts =>
    refine .of_silent ?_ ?_ <;> simp only [advance] <;> split <;> simp [notice?]
  | refill k e => cases c <;> exact .of_silent rfl (List.forall_mem_nil _)
  | saveGrid k e => cases c <;> exact .of_silent rfl (List.forall_mem_nil _)
  | removeGrid k e => cases c <;> exact .of_silent rfl (List.forall_mem_nil _)
  | notify origin event e => exact .of_silent rfl (List.forall_mem_nil _)
  | scan span => cases c <;> exact .of_silent rfl (List.forall_mem_nil _)
  | execute k p =>
    refine .of_silent ?_ ?_ <;> cases c <;> simp only [advance, failure] <;>
      (try split) <;> simp [notice?]
  | feed span rest count =>
    refine .of_silent ?_ ?_ <;> cases c <;> cases rest <;> simp only [advance] <;>
      (try split) <;> simp [notice?]

end Moves

end Work

def Task.owed? (t : Task E Out L) : Option (Option L × Notice E) :=
  (t.work? >>= Work.notice?).map (t.client.listener, ·)

namespace Tiers

/-- What listeners have heard, and what they are still to hear. -/
def notes (s : Tiers E Out L) : List (Option L × Notice E) :=
  s.notices ++ s.tasks.filterMap Task.owed?

def notesOf (s : Tiers E Out L) (n : Nat) : List (Option L × Notice E) :=
  s.notes.filter (·.2.origin = n)

section Notes

variable {s : Tiers E Out L} {client : Client L} {m : Move E Out} {i : Nat} {v : Work E Out}

theorem owed?_next (client : Client L) (w : Work E Out) :
    (⟨client, .next w⟩ : Task E Out L).owed? = w.notice?.map (client.listener, ·) := rfl

theorem notes_of_isQuiet (h : s.isQuiet = true) : s.notes = s.notices := by
  have owed : s.tasks.filterMap Task.owed? = [] := by
    refine List.filterMap_eq_nil_iff.2 fun t ht => ?_
    have done := List.all_eq_true.1 h t ht
    simp only [Task.isDone, Option.isNone_iff_eq_none] at done
    simp [Task.owed?, done]
  rw [notes, owed, List.append_nil]

theorem notes_apply (h : s.DueFor client i v) (heard : m.heard = v.notice?)
    (onward : ∀ w, m.progress = .next w → w.notice? = none) :
    (s.apply i client m).notes.Perm
      (s.notes ++ (m.spawned.filterMap Work.notice?).map (client.listener, ·)) := by
  have hnew : (⟨client, m.progress⟩ : Task E Out L).owed? = none := by
    cases hp : m.progress with
    | done r => rfl
    | next w => rw [owed?_next, onward w hp, Option.map_none]
  have howed : ((v.notice?.map (client.listener, ·)).toList ++
      (s.tasks.set i ⟨client, m.progress⟩).filterMap Task.owed?).Perm
        (s.tasks.filterMap Task.owed?) := by
    rw [List.filterMap_eq_flatMap_toList, List.filterMap_eq_flatMap_toList]
    exact flatMap_set_perm h (by rw [hnew, owed?_next, Option.toList_none, List.append_nil])
  have hspawned : (m.spawned.map fun w => (⟨client, .next w⟩ : Task E Out L)).filterMap
      Task.owed? = (m.spawned.filterMap Work.notice?).map (client.listener, ·) := by
    rw [List.filterMap_map, List.map_filterMap]
    rfl
  have htold : m.heard.toList.map (client.listener, ·) =
      (v.notice?.map (client.listener, ·)).toList := by
    rw [heard]
    cases v.notice? <;> rfl
  have hsplit : (s.apply i client m).notes =
      (s.notices ++ m.heard.toList.map (client.listener, ·)) ++
        ((s.tasks.set i ⟨client, m.progress⟩).filterMap Task.owed? ++
          (m.spawned.filterMap Work.notice?).map (client.listener, ·)) := by
    rw [← hspawned, ← List.filterMap_append]
    rfl
  rw [hsplit, htold, ← List.append_assoc, notes, List.append_assoc s.notices]
  exact (howed.append_left _).append_right _

variable [Entity E]

theorem notes_call (h : s.DueFor client i v) (c : Conduct E) :
    (s.call i c).notes.Perm (s.notes ++
      ((v.advance i client.listener.isSome s.map s.store c).spawned.filterMap Work.notice?).map
        (client.listener, ·)) := by
  rw [call_of_dueFor h]
  exact notes_apply h (v.tells_advance ..).heard fun _ hw => (Work.leadsTo_of_advance hw).notice?

theorem notes_ask (s : Tiers E Out L) (client : Client L) (r : Request E Out) :
    (s.ask client r).2.notes = s.notes := by
  have hnotices : (s.ask client r).2.notices = s.notices := by
    rw [ask_snd]
    cases r.opening <;> rfl
  have howed : (r.opening.toOption.toList.map fun w => (⟨client, .next w⟩ : Task E Out L)).filterMap
      Task.owed? = [] := by
    cases hr : r.opening with
    | error err => rfl
    | ok w => simp [Except.toOption, owed?_next, Work.notice?_of_opening hr]
  rw [notes, notes, hnotices, ask_tasks, List.filterMap_append, howed, List.append_nil]

theorem notesOf_ask (s : Tiers E Out L) (client : Client L) (r : Request E Out) (n : Nat) :
    (s.ask client r).2.notesOf n = s.notesOf n := by
  rw [notesOf, notes_ask, notesOf]

theorem notesOf_call (h : s.DueFor client i v) (c : Conduct E) (n : Nat) :
    ((s.call i c).notesOf n).Perm (s.notesOf n ++
      (((v.advance i client.listener.isSome s.map s.store c).spawned.filterMap Work.notice?).map
        (client.listener, ·)).filter (·.2.origin = n)) := by
  have hnotes := (notes_call h c).filter (·.2.origin = n)
  rwa [List.filter_append] at hnotes

theorem notesOf_call_of_ne (h : s.DueFor client i v) (c : Conduct E) {n : Nat} (hin : i ≠ n) :
    ((s.call i c).notesOf n).Perm (s.notesOf n) := by
  have hothers : (((v.advance i client.listener.isSome s.map s.store c).spawned.filterMap
      Work.notice?).map (client.listener, ·)).filter (·.2.origin = n) = [] := by
    refine List.filter_eq_nil_iff.2 fun y hy => ?_
    obtain ⟨z, hz, rfl⟩ := List.mem_map.1 hy
    obtain ⟨u, hu, huz⟩ := List.mem_filterMap.1 hz
    obtain ⟨horigin, -⟩ := (v.tells_advance ..).later u hu z huz
    simpa [horigin] using hin
  have hnotes := notesOf_call h c n
  rwa [hothers, List.append_nil] at hnotes

/-- Whatever listeners hear is of a task to which the store has replied that it applied a write. -/
structure Backed (s : Tiers E Out L) (back : List (Nat × Ending Fault Bool)) : Prop where
  committed : ∀ x ∈ s.notes, (x.2.origin, .value true) ∈ back
  bounded : ∀ p ∈ back, p.1 < s.tasks.length

theorem Backed.step {back : List (Nat × Ending Fault Bool)} (h : s.Backed back)
    (ev : Event E Out L) : (s.step ev).Backed (back ++ s.replied ev) := by
  cases ev with
  | lose k =>
    rw [replied, List.append_nil]
    exact ⟨h.committed, h.bounded⟩
  | ask other r =>
    rw [replied, List.append_nil]
    refine ⟨fun x hx => h.committed x (notes_ask s other r ▸ hx), fun p hp => ?_⟩
    have := h.bounded p hp
    simp only [Tiers.step, ask_tasks, List.length_append]
    omega
  | call i c =>
    have hle := s.length_tasks_call i c
    rcases s.call_dueFor_cases i c with ⟨hno, hcall⟩ | ⟨other, v, hv⟩
    · rw [replied_of_not_due hno, List.append_nil, Tiers.step, hcall]
      exact h
    · rw [replied_of_due hv.due, Tiers.step]
      refine ⟨fun x hx => ?_, fun p hp => ?_⟩
      · rcases List.mem_append.1 ((notes_call hv c).mem_iff.1 hx) with hx | hx
        · exact List.mem_append_left _ (h.committed x hx)
        · obtain ⟨y, hy, rfl⟩ := List.mem_map.1 hx
          obtain ⟨u, hu, huy⟩ := List.mem_filterMap.1 hy
          obtain ⟨horigin, hreply⟩ := (v.tells_advance ..).later u hu y huy
          simp [horigin, hreply]
      · rcases List.mem_append.1 hp with hp | hp
        · exact Nat.lt_of_lt_of_le (h.bounded p hp) hle
        · obtain ⟨r, -, rfl⟩ := List.mem_map.1 hp
          exact Nat.lt_of_lt_of_le hv.lt hle

theorem Backed.run {back : List (Nat × Ending Fault Bool)} (h : s.Backed back)
    (events : List (Event E Out L)) : (s.run events).Backed (back ++ s.replies events) := by
  induction events generalizing s back with
  | nil => simpa [Tiers.run, replies] using h
  | cons ev rest ih =>
    have := ih (h.step ev)
    rwa [List.append_assoc] at this

omit [Entity E] in
theorem backed_of_idle (htasks : s.tasks = []) (hnotices : s.notices = []) : s.Backed [] :=
  ⟨fun x hx => by simp [notes, htasks, hnotices] at hx, fun p hp => (nomatch hp)⟩

end Notes

end Tiers

namespace Write

open Tiers

variable [Entity E]

omit [Entity E] in
theorem Stage.client_of_dueFor {w : Write} {k : Key} {x : E} {client other : Client L} {n : Nat}
    {s : Tiers E Out L} {own : List (Called E Out)} {back : List (Nat × Ending Fault Bool)}
    (h : w.Stage k x client n s own back) {v : Work E Out} (hv : s.DueFor other n v) :
    other = client := by
  cases h with
  | asked due => exact (hv.unique due).1
  | taken _ _ due => exact (hv.unique due).1
  | refused _ _ _ result => simp [hv.due.result?] at result
  | ended _ _ _ _ result => simp [hv.due.result?] at result

def heard (w : Write) (client : Client L) (n : Nat) (x : E)
    (back : List (Nat × Ending Fault Bool)) : List (Option L × Notice E) :=
  if (n, .value true) ∈ back then [(client.listener, ⟨n, w.event, x⟩)] else []

section Heard

variable {w : Write} {k : Key} {x : E} {client : Client L} {n : Nat} {s : Tiers E Out L}
  {own : List (Called E Out)} {back : List (Nat × Ending Fault Bool)}

/-- The write's own next call has the listener told if it is the store's and commits. -/
theorem Stage.notes_call_self (h : w.Stage k x client n s own back)
    (listening : client.listener.isSome = true)
    (hn : (s.notesOf n).Perm (w.heard client n x back)) {v : Work E Out}
    (hv : s.DueFor client n v) (c : Conduct E) :
    ((s.call n c).notesOf n).Perm
      (w.heard client n x (back ++ (v.reply? s.store c).toList.map (n, ·))) := by
  refine (notesOf_call hv c n).trans ?_
  cases h with
  | refused _ _ _ result => simp [hv.due.result?] at result
  | ended _ _ _ _ result => simp [hv.due.result?] at result
  | asked due =>
    obtain rfl := (hv.unique due).2
    obtain ⟨-, hsp, -⟩ := advance_gridWork Out w n client.listener.isSome s.map s.store c k x
    have hreply : (w.gridWork k x : Work E Out).reply? s.store c = none := by cases w <;> rfl
    simpa [hsp, hreply] using hn
  | taken b served due =>
    obtain rfl := (hv.unique due).2
    obtain ⟨-, -, -, -, hsp⟩ :=
      advance_storeWork Out w n client.listener.isSome s.map s.store c k x
    have hreply : (w.storeWork k x : Work E Out).reply? s.store c =
        some (w.reply s.store x c).1 := by
      cases w <;> rfl
    have hnone : s.notesOf n = [] := List.perm_nil.1 (by simpa [heard] using hn)
    rw [hnone, hsp, hreply]
    by_cases hcommit : (w.reply s.store x c).1 = .value true
    · simp [hcommit, listening, heard, Work.notice?]
    · simp [hcommit, heard, Ne.symm hcommit]

theorem Stage.notes_step (h : w.Stage k x client n s own back)
    (listening : client.listener.isSome = true)
    (hn : (s.notesOf n).Perm (w.heard client n x back))
    (ev : Event E Out L) :
    ((s.step ev).notesOf n).Perm
      (w.heard client n x (back ++ (s.replied ev).filter (·.1 = n))) := by
  cases ev with
  | lose l =>
    rw [replied, List.filter_nil, List.append_nil]
    exact hn
  | ask other r => simpa [replied, Tiers.step, notesOf_ask] using hn
  | call i c =>
    rcases s.call_dueFor_cases i c with ⟨hno, hcall⟩ | ⟨other, v, hv⟩
    · rw [replied_of_not_due hno, Tiers.step, hcall]
      simpa using hn
    · rw [Tiers.step]
      by_cases hin : i = n
      · subst hin
        rw [filter_replied_self, replied_of_due hv.due]
        exact h.notes_call_self listening hn (h.client_of_dueFor hv ▸ hv) c
      · rw [filter_replied_of_ne s hin, List.append_nil]
        exact (notesOf_call_of_ne hv c hin).trans hn

theorem Stage.notes_run (h : w.Stage k x client n s own back)
    (listening : client.listener.isSome = true)
    (hn : (s.notesOf n).Perm (w.heard client n x back))
    (events : List (Event E Out L)) :
    ((s.run events).notesOf n).Perm
      (w.heard client n x (back ++ (s.replies events).filter (·.1 = n))) := by
  induction events generalizing s own back with
  | nil => simpa [Tiers.run, replies] using hn
  | cons ev rest ih =>
    have := ih (h.step ev) (h.notes_step listening hn ev)
    simpa [Tiers.run, replies, List.filter_append, List.append_assoc] using this

omit [Entity E] in
theorem Stage.committed_iff (h : w.Stage k x client n s own back)
    (finished : ∀ v, ¬ s.Due n v) :
    (n, .value true) ∈ back ↔ s.result? n = some (.ok (.applied true)) := by
  cases h with
  | asked due => exact absurd due.due (finished _)
  | taken _ _ due => exact absurd due.due (finished _)
  | refused _ _ _ result => simp [result]
  | ended _ _ reply _ result =>
    rw [result]
    cases reply <;> simp [Ending.surfaced, Except.map, eq_comm]

end Heard

end Write

/-! ### Listeners that crash -/

namespace Tiers

variable [Entity E]

def calm (s : Tiers E Out L) : Event E Out L → Event E Out L
  | .call i c =>
    if ((s.tasks[i]? >>= Task.work?) >>= Work.notice?).isSome then .call i .serve else .call i c
  | ev => ev

def calmed (s : Tiers E Out L) : List (Event E Out L) → List (Event E Out L)
  | [] => []
  | ev :: rest => s.calm ev :: (s.step ev).calmed rest

structure Aside (i : Nat) (before after : Tiers E Out L) : Prop where
  map : after.map = before.map
  store : after.store = before.store
  notices : ∃ x, after.notices = before.notices ++ [x]
  result : ∀ j r, before.result? j = some r → after.result? j = some r
  due : ∀ j v, j ≠ i → (after.Due j v ↔ before.Due j v)

variable {s : Tiers E Out L} {i : Nat} {v : Work E Out}

theorem call_notice (hv : s.Due i v) (hn : v.IsNotice) (c : Conduct E) :
    s.call i c = s.call i .serve := by
  obtain ⟨client, hv⟩ : ∃ client, s.DueFor client i v := hv
  rw [call_of_dueFor hv, call_of_dueFor hv]
  cases v <;> first | rfl | exact hn.elim

theorem aside_of_notice (hv : s.Due i v) (hn : v.IsNotice) (c : Conduct E) :
    Aside i s (s.call i c) := by
  obtain ⟨client, hv⟩ : ∃ client, s.DueFor client i v := hv
  obtain ⟨hmap, hstore, hprog, hsp⟩ := Work.advance_notice i client.listener.isSome s.map s.store
    (c := c) hn
  refine ⟨?_, ?_, ?_, fun j r hr => result?_call c hr, fun j u hj => ?_⟩
  · rw [call_of_dueFor hv, apply_map, hmap]
  · rw [call_of_dueFor hv, apply_store, hstore]
  · rw [call_of_dueFor hv]
    cases v <;> first | exact ⟨_, rfl⟩ | exact hn.elim
  · rw [call_of_dueFor hv, due_apply hv.lt, hsp]
    simp [hj]

theorem step_calm (s : Tiers E Out L) (ev : Event E Out L) : s.step (s.calm ev) = s.step ev := by
  cases ev with
  | ask client r => rfl
  | lose k => rfl
  | call i c =>
    rw [calm]
    split
    · rename_i h
      obtain ⟨x, hx⟩ := Option.isSome_iff_exists.1 h
      obtain ⟨v, hv, hvx⟩ := Option.bind_eq_some_iff.1 hx
      refine (call_notice (work?_eq_some_iff.1 hv) ?_ c).symm
      cases v <;> trivial
    · rfl

/-- Whether listeners crash makes no difference to a run. -/
theorem run_calmed (s : Tiers E Out L) (events : List (Event E Out L)) :
    s.run (s.calmed events) = s.run events := by
  induction events generalizing s with
  | nil => rfl
  | cons ev rest ih =>
    show (s.step (s.calm ev)).run ((s.step ev).calmed rest) = (s.step ev).run rest
    rw [step_calm, ih]

end Tiers

namespace Write

open Tiers

variable [Entity E]

theorem stage_and_notes (w : Write) (s : Tiers E Out L) (htasks : s.tasks = [])
    (hnotices : s.notices = []) (client : Client L) (listening : client.listener.isSome = true)
    {e : E} {k : Key} (hk : Entity.key e = .ok k) (before after : List (Event E Out L)) :
    let n := (s.run before).tasks.length
    let events := before ++ .ask client (w.request e) :: after
    let back := (s.replies events).filter (·.1 = n)
    (∃ own, w.Stage k (w.subject k e) client n (s.run events) own back) ∧
      ((s.run events).notesOf n).Perm
        (w.heard client n (w.subject k e) back) := by
  intro n events back
  have backed : (s.run before).Backed (s.replies before) := by
    simpa using (backed_of_idle htasks hnotices).run before
  have unheard : ((s.run before).ask client (w.request e)).2.notesOf n = [] := by
    rw [notesOf_ask]
    refine List.filter_eq_nil_iff.2 fun x hx => ?_
    simpa using Nat.ne_of_lt (backed.bounded _ (backed.committed x hx))
  have hback : back =
      (((s.run before).ask client (w.request e)).2.replies after).filter (·.1 = n) := by
    have earlier : (s.replies before).filter (·.1 = n) = [] :=
      List.filter_eq_nil_iff.2 fun p hp => by simpa using Nat.ne_of_lt (backed.bounded p hp)
    simp only [back, events, replies_append, replies, replied, List.filter_append, earlier,
      List.nil_append]
    rfl
  have hrun : s.run events = ((s.run before).ask client (w.request e)).2.run after :=
    s.run_append before _
  have start := Stage.ask (s.run before) client w hk
  rw [hrun, hback]
  refine ⟨⟨_, by simpa using start.run after⟩, ?_⟩
  have := start.notes_run listening (by rw [unheard]; simp [heard]) after
  simpa using this

/-- The listener hears of a write at most once, with its own event and the entity it was made
with, and not before the store has applied it; once all work has ended it has heard of it if and
only if the store has. Nobody hears of anything else, and how calls to listeners go makes no
difference to what else happens. -/
theorem told_once_if_committed (w : Write) (s : Tiers E Out L) (htasks : s.tasks = [])
    (hnotices : s.notices = []) (client : Client L) {l : L} (hl : client.listener = some l)
    (e : E) (before after : List (Event E Out L)) :
    let n := (s.run before).tasks.length
    let events := before ++ .ask client (w.request e) :: after
    let t := s.run events
    let told := t.notices.filter (·.2.origin = n)
    let committed := (n, .value true) ∈ s.replies events
    (match Entity.key e with
      | .error _ => ((s.run before).ask client (w.request e)).2.tasks = (s.run before).tasks
      | .ok k =>
        let call := (some l, ⟨n, w.event, w.subject k e⟩)
        (told = [] ∨ committed ∧ told = [call]) ∧
          (t.isQuiet = true → (told = if committed then [call] else []) ∧
            (committed ↔ t.result? n = some (.ok (.applied true))))) ∧
      (∀ x ∈ t.notices, (x.2.origin, .value true) ∈ s.replies events) ∧
      s.run (s.calmed events) = t ∧
      ∀ i v, t.Due i v → v.IsNotice →
        ∀ c, t.call i c = t.call i .serve ∧ Aside i t (t.call i c) := by
  intro n events t told committed
  have backed : t.Backed (s.replies events) := by
    simpa using (backed_of_idle htasks hnotices).run events
  refine ⟨?_, fun x hx => backed.committed x (List.mem_append_left _ hx), s.run_calmed events,
    fun i v hv hn c => ⟨call_notice hv hn c, aside_of_notice hv hn c⟩⟩
  cases hk : Entity.key e with
  | error err => simp [ask_tasks, w.opening_request_error hk, Except.toOption]
  | ok k =>
    dsimp only
    obtain ⟨⟨own, stage⟩, hnotes⟩ :=
      w.stage_and_notes s htasks hnotices client (hl ▸ rfl) hk before after
    have hback : committed ↔ (n, .value true) ∈ (s.replies events).filter (·.1 = n) := by
      simp [committed]
    rw [heard, if_congr hback.symm rfl rfl, hl] at hnotes
    refine ⟨?_, fun quiet => ⟨?_, ?_⟩⟩
    · rw [notesOf, notes, List.filter_append] at hnotes
      by_cases hc : committed
      · rw [if_pos hc, List.perm_singleton, List.append_eq_singleton_iff] at hnotes
        rcases hnotes with ⟨unheard, -⟩ | ⟨once, -⟩
        · exact .inl unheard
        · exact .inr ⟨hc, once⟩
      · rw [if_neg hc, List.perm_nil, List.append_eq_nil_iff] at hnotes
        exact .inl hnotes.1
    · rw [notesOf, notes_of_isQuiet quiet] at hnotes
      by_cases hc : committed
      · rw [if_pos hc] at hnotes ⊢
        exact List.perm_singleton.1 hnotes
      · rw [if_neg hc] at hnotes ⊢
        exact List.perm_nil.1 hnotes
    · exact hback.trans (stage.committed_iff (not_due_of_isQuiet quiet n))

namespace Told

def item : Item :=
  .stampedSample "new"

def idle : Tiers Item Unit Unit :=
  Tiers.create ⟨"items", .bulk, ∅⟩ .empty

def caller : Client Unit :=
  ⟨some (), 0⟩

def saving : Event Item Unit Unit :=
  .ask caller (.save item)

def removing : Event Item Unit Unit :=
  .ask caller (.remove item)

def calls : List (Event Item Unit Unit) :=
  [.call 0 .serve, .call 1 .serve, .call 0 .serve, .call 1 .serve, .call 3 (.crash "listener"),
    .call 2 .serve]

theorem each_told_once :
    let t := idle.run (saving :: removing :: calls)
    t.isQuiet = true ∧
      t.notices.filter (·.2.origin = 0) = [(some (), ⟨0, .saved, item⟩)] ∧
      t.notices.filter (·.2.origin = 1) = [(some (), ⟨1, .removed, item⟩)] := by
  intro t
  have quiet : t.isQuiet = true := rfl
  obtain ⟨⟨-, save⟩, -⟩ :=
    told_once_if_committed .save idle rfl rfl caller rfl item [] (removing :: calls)
  obtain ⟨⟨-, remove⟩, -⟩ :=
    told_once_if_committed .remove idle rfl rfl caller rfl item [saving] calls
  obtain ⟨saved, committed⟩ := save quiet
  obtain ⟨removed, committed'⟩ := remove quiet
  refine ⟨quiet, saved.trans (if_pos (committed.2 rfl)), removed.trans (if_pos (committed'.2 rfl))⟩

end Told

end Write

end CacheAside
