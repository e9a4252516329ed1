import CacheAside.Access.Schedule
import CacheAside.Proofs.Access.Finds
import CacheAside.Proofs.Outcome
import Mathlib.Algebra.GroupWithZero.Nat
import Mathlib.Algebra.Order.BigOperators.Group.List
import Mathlib.Algebra.Order.Ring.Nat
/-!
Schedules are runs. Whatever is done with a schedule, its system is one that requests and calls lead
to, the requests in the order in which they were made; and after each act all work has gone on that
is not held, for the calls that are still to be made can be counted.
-/

set_option autoImplicit false

namespace CacheAside

variable {E Out L : Type}

/-! ### How many calls are to be made -/

namespace Work

/-- The most calls that work makes with all that it starts, if a scan finds at most so many rows. -/
def callsLeft (rows : Nat) : Work E Out → Nat
  | .readGrid .. | .saveGrid .. | .removeGrid .. => 3
  | .readStore .. | .saveStore .. | .removeStore .. => 2
  | .refill .. | .execute .. | .notify .. => 1
  | .scan _ => rows + 2
  | .feed _ rest _ => rest.length + 1

theorem callsLeft_pos (rows : Nat) (w : Work E Out) : 0 < w.callsLeft rows := by
  cases w <;> simp [callsLeft]

def adds : Work E Out → Nat
  | .saveGrid .. | .saveStore .. => 1
  | _ => 0

end Work

namespace Progress

def amount (f : Work E Out → Nat) : Progress E Out → Nat
  | .next w => f w
  | .done _ => 0

def ended : Progress E Out → Nat
  | .next _ => 0
  | .done _ => 1

def Within (n : Nat) : Progress E Out → Prop
  | .next (.feed _ rest _) => rest.length ≤ n
  | _ => True

end Progress

/-- What a move takes of the calls that work may make, and of the rows that it may add. -/
structure Move.Spends (rows : Nat) (w : Work E Out) (store : RowStore E) (m : Move E Out) :
    Prop where
  calls : m.progress.amount (Work.callsLeft rows) + (m.spawned.map (Work.callsLeft rows)).sum <
    w.callsLeft rows
  adds : m.store.size + m.progress.amount Work.adds + (m.spawned.map Work.adds).sum ≤
    store.size + w.adds
  size : store.size ≤ m.store.size + m.progress.ended
  within : ∀ n, store.size ≤ n → (Progress.next w).Within n → m.progress.Within n
  starts : ∀ v ∈ m.spawned, ∀ n, (Progress.next v).Within n

section Spends

variable {rows : Nat} {v w : Work E Out} {store : RowStore E} {m : Move E Out}

theorem Move.Spends.of_next (hp : m.progress = .next v) (hsp : m.spawned = [])
    (hstore : m.store.size = store.size) (hcalls : v.callsLeft rows < w.callsLeft rows)
    (hadds : v.adds ≤ w.adds)
    (within : ∀ n, store.size ≤ n → (Progress.next w).Within n → (Progress.next v).Within n) :
    m.Spends rows w store := by
  constructor
  · simpa [hp, hsp, Progress.amount] using hcalls
  · simpa [hp, hsp, hstore, Progress.amount] using hadds
  · omega
  · rwa [hp]
  · simp [hsp]

theorem Move.Spends.of_done {r : Result (Answer E Out)} (hp : m.progress = .done r)
    (hcalls : (m.spawned.map (Work.callsLeft rows)).sum < w.callsLeft rows)
    (hadds : m.store.size + (m.spawned.map Work.adds).sum ≤ store.size + w.adds)
    (hsize : store.size ≤ m.store.size + 1)
    (starts : ∀ v ∈ m.spawned, ∀ n, (Progress.next v).Within n) : m.Spends rows w store := by
  constructor
  · simpa [hp, Progress.amount] using hcalls
  · simpa [hp, Progress.amount] using hadds
  · simpa [hp, Progress.ended] using hsize
  · simp [hp, Progress.Within]
  · exact starts

theorem Move.Spends.of_ended {r : Result (Answer E Out)} (hp : m.progress = .done r)
    (hsp : m.spawned = []) (hstore : m.store = store) : m.Spends rows w store :=
  .of_done hp (by simp [hsp, w.callsLeft_pos rows]) (by simp [hsp, hstore]) (by simp [hstore])
    (by simp [hsp])

end Spends

theorem RowStore.size_save [Entity E] (store : RowStore E) (e : E) :
    store.size ≤ (store.save e).2.size ∧ (store.save e).2.size ≤ store.size + 1 := by
  simp only [save]
  split
  · simp [size]
  · simp only [size, Table.size_insert]
    split <;> omega

theorem RowStore.size_remove [Entity E] (store : RowStore E) (e : E) :
    (store.remove e).2.size ≤ store.size ∧ store.size ≤ (store.remove e).2.size + 1 := by
  simp only [remove]
  split
  · simp [size]
  · exact store.rows.size_erase _

namespace Work

variable [Entity E] (number : Nat) (listening : Bool) (map : EntryMap E) {store : RowStore E}
  {rows : Nat}

theorem size_reply (x : Write) (store : RowStore E) (k : Key) (e : E) (c : Conduct E) :
    (x.reply store e c).2.size ≤ store.size + (x.storeWork k e : Work E Out).adds ∧
      store.size ≤ (x.reply store e c).2.size + 1 := by
  have saved := store.size_save e
  have removed := store.size_remove e
  cases x <;> cases c <;>
    simp only [Write.reply, Write.onStore, Write.storeWork, adds] <;> omega

theorem spends_write (x : Write) (k : Key) (e : E) (c : Conduct E) :
    ((x.gridWork k e : Work E Out).advance number listening map store c).Spends rows
        (x.gridWork k e) store ∧
      ((x.storeWork k e : Work E Out).advance number listening map store c).Spends rows
        (x.storeWork k e) store := by
  have hgrid : (x.gridWork k e : Work E Out).callsLeft rows = 3 := by cases x <;> rfl
  have hstoring : (x.storeWork k e : Work E Out).callsLeft rows = 2 := by cases x <;> rfl
  have hadds : (x.storeWork k e : Work E Out).adds = (x.gridWork k e : Work E Out).adds := by
    cases x <;> rfl
  refine ⟨?_, ?_⟩
  · obtain ⟨hstore, hsp, -, ⟨-, -, hp⟩ | ⟨err, -, -, hp⟩⟩ :=
      x.advance_gridWork Out number listening map store c k e
    · exact .of_next hp hsp (congrArg _ hstore) (by omega) (by omega) fun _ _ _ => by
        cases x <;> trivial
    · exact .of_ended hp hsp hstore
  · obtain ⟨-, hstore, -, hp, hsp⟩ := x.advance_storeWork Out number listening map store c k e
    have hsize : _ ≤ store.size + (x.storeWork k e : Work E Out).adds ∧ _ :=
      size_reply x store k e c
    refine .of_done hp ?_ ?_ ?_ ?_
    · rw [hsp, hstoring]
      split <;> simp [callsLeft]
    · have hspawned : (((x.storeWork k e : Work E Out).advance number listening map store
          c).spawned.map adds).sum = 0 := by
        rw [hsp]
        split <;> rfl
      rw [hspawned, hstore]
      exact hsize.1
    · rw [hstore]
      exact hsize.2
    · rw [hsp]
      split <;> simp [Progress.Within]

theorem spends_advance (h : store.size ≤ rows) (c : Conduct E) (w : Work E Out) :
    (w.advance number listening map store c).Spends rows w store := by
  cases w with
  | saveGrid k e => exact (spends_write number listening map .save k e c).1
  | removeGrid k e => exact (spends_write number listening map .remove k e c).1
  | saveStore k e => exact (spends_write number listening map .save k e c).2
  | removeStore k e => exact (spends_write number listening map .remove k e c).2
  | readGrid k parts =>
    obtain ⟨-, hstore, hsp, ⟨e, -, hp⟩ | ⟨-, hp⟩⟩ :=
      Find.advance_readGrid Out number listening map store c k parts
    · exact .of_ended hp hsp hstore
    · exact .of_next hp hsp (congrArg _ hstore) (by simp [callsLeft]) (by simp [adds])
        fun _ _ _ => trivial
  | readStore k parts =>
    obtain ⟨-, hrows, hp, hsp⟩ := Find.advance_readStore Out number listening map store c k parts
    have hsize : _ = store.size := congrArg Table.size hrows
    have hspawned : (((readStore k parts : Work E Out).advance number listening map store
          c).spawned.map (callsLeft rows)).sum ≤ 1 ∧
        (((readStore k parts : Work E Out).advance number listening map store
          c).spawned.map adds).sum = 0 := by
      rw [hsp]
      cases c.storeRead store parts with
      | value found => cases found <;> simp [Find.refill?, callsLeft, adds]
      | error | crash => simp [Find.refill?]
    refine .of_done hp (Nat.lt_succ_of_le hspawned.1) ?_ ?_ ?_
    · rw [hspawned.2]
      exact Nat.le_of_eq hsize
    · exact Nat.le_succ_of_le (Nat.le_of_eq hsize.symm)
    · rw [hsp]
      cases c.storeRead store parts with
      | value found => cases found <;> simp [Find.refill?, Progress.Within]
      | error | crash => simp [Find.refill?]
  | refill k e =>
    obtain ⟨-, hstore, hp, hsp⟩ := @advance_refill E Out _ number listening map store c k e
    exact .of_ended hp hsp hstore
  | execute k p =>
    cases c with
    | fail | crash => exact .of_ended rfl rfl rfl
    | serve | refuse | answer =>
      simp only [advance, failure]
      split <;> exact .of_ended rfl rfl rfl
  | notify => exact .of_ended rfl rfl rfl
  | scan span =>
    have hrows : (store.rowsIn span.start span.stop).length ≤ store.size := by
      simpa [RowStore.rowsIn, RowStore.size, Table.size] using List.length_filter_le _ _
    cases c with
    | fail | crash => exact .of_ended rfl rfl rfl
    | serve | refuse | answer =>
      exact .of_next rfl rfl rfl (by simp only [callsLeft]; omega) (Nat.le_refl _)
        fun n hn _ => Nat.le_trans hrows hn
  | feed span rest count =>
    obtain ⟨hstore, hsp, ⟨⟨a, hp⟩, -⟩ | ⟨row, left, key, e, rfl, -, hp, -⟩⟩ :=
      @advance_feed E Out _ number listening map store c span rest count
    · exact .of_ended hp hsp hstore
    · exact .of_next hp hsp (congrArg _ hstore) (by simp [callsLeft]) (Nat.le_refl _)
        fun n _ hn => Nat.le_of_succ_le hn

end Work

namespace Tiers

def total (f : Work E Out → Nat) (s : Tiers E Out L) : Nat :=
  (s.tasks.map fun t => t.progress.amount f).sum

def ended (s : Tiers E Out L) : Nat :=
  (s.tasks.map fun t => t.progress.ended).sum

theorem sum_map_set {α : Type} {ts : List α} {i : Nat} {t : α} (hi : ts[i]? = some t) (u : α)
    (f : α → Nat) : ((ts.set i u).map f).sum + f t = (ts.map f).sum + f u := by
  induction ts generalizing i with
  | nil => simp at hi
  | cons v rest ih =>
    cases i with
    | zero =>
      obtain rfl : v = t := by simpa using hi
      simp only [List.set_cons_zero, List.map_cons, List.sum_cons]
      omega
    | succ i =>
      have := ih (by simpa using hi)
      simp only [List.set_cons_succ, List.map_cons, List.sum_cons]
      omega

theorem sum_map_le {α : Type} {ts : List α} {f : α → Nat} {b : Nat} (h : ∀ t ∈ ts, f t ≤ b) :
    (ts.map f).sum ≤ ts.length * b := by
  simpa using List.sum_le_card_nsmul (ts.map f) b (by simpa using h)

section Call

variable {s : Tiers E Out L} {client : Client L} {i : Nat} {w : Work E Out} {m : Move E Out}

theorem total_apply (h : s.DueFor client i w) (f : Work E Out → Nat) :
    (s.apply i client m).total f + f w =
      s.total f + m.progress.amount f + (m.spawned.map f).sum := by
  have hset : _ + f w = _ + m.progress.amount f :=
    sum_map_set h ⟨client, m.progress⟩ fun t => t.progress.amount f
  have hspawned : ((m.spawned.map fun w => (⟨client, .next w⟩ : Task E Out L)).map fun t =>
      t.progress.amount f) = m.spawned.map f := by
    simp [Function.comp_def, Progress.amount]
  simp only [total, apply, count, List.map_append, List.sum_append, hspawned]
  omega

theorem ended_apply (h : s.DueFor client i w) :
    (s.apply i client m).ended = s.ended + m.progress.ended := by
  have hset : _ + 0 = _ + m.progress.ended :=
    sum_map_set h ⟨client, m.progress⟩ fun t => t.progress.ended
  have hspawned : ((m.spawned.map fun w => (⟨client, .next w⟩ : Task E Out L)).map fun t =>
      t.progress.ended).sum = 0 := by
    simp [Function.comp_def, Progress.ended, List.map_const']
  simp only [ended, apply, count, List.map_append, List.sum_append, hspawned]
  omega

variable [Entity E]

/-- A call leaves fewer calls to be made, and no more room to be taken in the store. -/
theorem spends_call (h : s.DueFor client i w) (c : Conduct E) {rows : Nat}
    (room : s.store.size + s.total Work.adds ≤ rows) :
    (s.call i c).total (Work.callsLeft rows) < s.total (Work.callsLeft rows) ∧
      (s.call i c).store.size + (s.call i c).total Work.adds ≤ rows := by
  have hsize : s.store.size ≤ rows := by omega
  have spends := Work.spends_advance i client.listener.isSome s.map hsize c w
  have hcalls := spends.calls
  have hadds := spends.adds
  rw [call_of_dueFor h]
  have hleft := total_apply (m := w.advance i client.listener.isSome s.map s.store c) h
    (Work.callsLeft rows)
  have hrows := total_apply (m := w.advance i client.listener.isSome s.map s.store c) h Work.adds
  rw [apply_store]
  omega

end Call

/-- Rows on their way are no more than the store has, with one for each task that is done: none but
tasks that came to their end have taken rows from it. -/
def Bounded (s : Tiers E Out L) : Prop :=
  ∀ t ∈ s.tasks, t.progress.Within (s.store.size + s.ended)

theorem within_mono {p : Progress E Out} {m n : Nat} (h : p.Within m) (hn : m ≤ n) :
    p.Within n := by
  cases p with
  | done => trivial
  | next w =>
    cases w with
    | feed span rest count => exact Nat.le_trans h hn
    | _ => trivial

variable [Entity E]

theorem within_opening {r : Request E Out} {w : Work E Out} (h : r.opening = .ok w) (n : Nat) :
    (Progress.next w).Within n := by
  cases r with
  | find parts =>
    obtain ⟨k, -, rfl⟩ := map_eq_ok h
    trivial
  | save e | remove e | execute e =>
    obtain ⟨k, -, rfl⟩ := map_eq_ok h
    trivial
  | refill | load =>
    cases h
    trivial

theorem Bounded.step {s : Tiers E Out L} (h : s.Bounded) (ev : Event E Out L) :
    (s.step ev).Bounded := by
  cases ev with
  | lose k => exact h
  | ask client r =>
    have hle : s.ended ≤ (s.ask client r).2.ended := by
      simp [ended, ask_tasks]
    intro t ht
    rw [Tiers.step, ask_store]
    rw [Tiers.step, ask_tasks] at ht
    rcases List.mem_append.1 ht with ht | ht
    · exact within_mono (h t ht) (by omega)
    · obtain ⟨w, hw, rfl⟩ := List.mem_map.1 ht
      cases ho : r.opening with
      | error err => simp [ho, Except.toOption] at hw
      | ok v =>
        obtain rfl : w = v := by simpa [ho, Except.toOption] using hw
        exact within_opening ho _
  | call i c =>
    rcases s.call_dueFor_cases i c with ⟨-, hcall⟩ | ⟨client, w, hw⟩
    · rwa [Tiers.step, hcall]
    · have spends := Work.spends_advance i client.listener.isSome s.map
        (Nat.le_refl s.store.size) c w
      have hsize := spends.size
      have hwithin := spends.within
      have hended := ended_apply (m := w.advance i client.listener.isSome s.map s.store c) hw
      intro t ht
      rw [Tiers.step, call_of_dueFor hw] at ht ⊢
      rw [apply_store, hended]
      rcases List.mem_append.1 ht with ht | ht
      · rcases List.mem_or_eq_of_mem_set ht with ht | rfl
        · exact within_mono (h t ht) (by omega)
        · have hw := h _ (List.mem_of_getElem? hw)
          exact within_mono (hwithin _ (Nat.le_add_right _ _) hw) (by omega)
      · obtain ⟨v, hv, rfl⟩ := List.mem_map.1 ht
        exact spends.starts v hv _

theorem Bounded.run {s : Tiers E Out L} (h : s.Bounded) (events : List (Event E Out L)) :
    (s.run events).Bounded := by
  induction events generalizing s with
  | nil => exact h
  | cons ev rest ih => exact ih (h.step ev)

/-! ### Runs -/

omit [Entity E] in
def Event.asked? : Event E Out L → Option (Client L × Request E Out)
  | .ask client r => some (client, r)
  | .call .. | .lose _ => none

/-- Calls and the given requests, in their order, lead from one state to the other; nothing is
lost. -/
def Reaches (asked : List (Client L × Request E Out)) (s t : Tiers E Out L) : Prop :=
  ∃ events : List (Event E Out L), (∀ k, .lose k ∉ events) ∧
    events.filterMap Event.asked? = asked ∧ s.run events = t

theorem Reaches.refl (s : Tiers E Out L) : s.Reaches [] s :=
  ⟨[], by simp, rfl, rfl⟩

theorem Reaches.trans {r s t : Tiers E Out L} {as bs : List (Client L × Request E Out)}
    (h : r.Reaches as s) (h' : s.Reaches bs t) : r.Reaches (as ++ bs) t := by
  obtain ⟨before, hbefore, rfl, rfl⟩ := h
  obtain ⟨after, hafter, rfl, rfl⟩ := h'
  exact ⟨before ++ after, by simp [hbefore, hafter], List.filterMap_append, run_append ..⟩

theorem Reaches.call (s : Tiers E Out L) (i : Nat) (c : Conduct E) : s.Reaches [] (s.call i c) :=
  ⟨[.call i c], by simp, rfl, rfl⟩

theorem Reaches.ask (s : Tiers E Out L) (client : Client L) (r : Request E Out) :
    s.Reaches [(client, r)] (s.ask client r).2 :=
  ⟨[.ask client r], by simp, rfl, rfl⟩

theorem key_of_resolveKey_error {s t : Tiers E Out L} {client : Client L} {e : E}
    {err : AccessError} (h : s.resolveKey client e = (.error err, t)) :
    ∃ fault, Entity.key e = .error fault := by
  cases hs : Entity.stamped? e with
  | some k => simp [resolveKey, hs] at h
  | none =>
    cases hk : Key.derive (Entity.parts e) with
    | ok k => simp [resolveKey, deriveKey, hs, hk] at h
    | error fault => exact ⟨fault, by simp [Entity.key, hs, hk]⟩

theorem opening_of_ask_error {s t : Tiers E Out L} {client : Client L} {r : Request E Out}
    {err : AccessError} (h : s.ask client r = (.error err, t)) :
    ∃ fault, r.opening = .error fault := by
  cases r with
  | find parts =>
    cases hk : Key.derive parts with
    | ok k => simp [Tiers.ask, deriveKey, hk] at h
    | error fault => exact ⟨fault, Request.opening_find_error hk⟩
  | save e | remove e | execute e =>
    simp only [Tiers.ask] at h
    split at h
    · cases h
    · obtain ⟨fault, hk⟩ := key_of_resolveKey_error ‹_›
      exact ⟨fault, by simp [Request.opening, hk, Except.map]⟩
  | refill | load => cases h

end Tiers

namespace Schedule

variable [Entity E] {s : Schedule E Out L} {i : Nat} {p : CallPoint}

omit [Entity E] in
theorem exists_dueFor (h : s.pointOf i = some p) : ∃ client w, s.system.DueFor client i w := by
  obtain ⟨w, hw, -⟩ := Option.map_eq_some_iff.1 h
  obtain ⟨client, hdue⟩ := Tiers.work?_eq_some_iff.1 hw
  exact ⟨client, w, hdue⟩

omit [Entity E] in
theorem pointOf_of_ready? (h : s.ready? = some (i, p)) : s.pointOf i = some p := by
  obtain ⟨j, -, hj⟩ := List.exists_of_findSome?_eq_some h
  split at hj
  · cases hj
  · obtain ⟨q, hq, heq⟩ := Option.map_eq_some_iff.1 hj
    cases heq
    exact hq

theorem makeCall_cases (s : Schedule E Out L) (i : Nat) (p : CallPoint) :
    let t := s.makeCall i p
    t.system = s.system ∧ t.armed.length + 1 = s.armed.length ∨
      t.system = s.system.call i (s.conductAt p) ∧ t.armed = s.armed := by
  by_cases hp : p ∈ s.armed
  · have hlength := List.length_erase_of_mem hp
    have hpos := List.length_pos_of_mem hp
    have herase : (s.armed.erase p).length + 1 = s.armed.length := by omega
    by_cases hl : p = .listener <;> simp_all [makeCall]
  · by_cases hl : p = .listener <;> simp_all [makeCall, meet, conductAt]

/-- With enough fuel, calls are made until no task can go on. -/
theorem ready?_settleFor {rows fuel : Nat}
    (room : s.system.store.size + s.system.total Work.adds ≤ rows)
    (enough : s.system.total (Work.callsLeft rows) + s.armed.length ≤ fuel) :
    (settleFor fuel s).ready? = none := by
  induction fuel generalizing s with
  | zero =>
    rw [settleFor]
    cases h : s.ready? with
    | none => rfl
    | some next =>
      obtain ⟨client, w, hw⟩ := exists_dueFor (pointOf_of_ready? h)
      have := (Tiers.spends_call hw .serve room).1
      omega
  | succ fuel ih =>
    rw [settleFor]
    cases h : s.ready? with
    | none => exact h
    | some next =>
      obtain ⟨i, p⟩ := next
      obtain ⟨client, w, hw⟩ := exists_dueFor (pointOf_of_ready? h)
      obtain ⟨hleft, hroom⟩ := Tiers.spends_call hw (s.conductAt p) room
      rcases s.makeCall_cases i p with ⟨hsystem, harmed⟩ | ⟨hsystem, harmed⟩
      · exact ih (by rwa [hsystem]) (by rw [hsystem]; omega)
      · exact ih (by rwa [hsystem]) (by rw [hsystem, harmed]; omega)

theorem ready?_settle (h : s.system.Bounded) : s.settle.ready? = none := by
  have hended : s.system.ended ≤ s.system.tasks.length * 1 :=
    Tiers.sum_map_le fun t _ => by cases t.progress <;> simp [Progress.ended]
  have hadds : s.system.total Work.adds ≤ s.system.tasks.length * 1 := by
    refine Tiers.sum_map_le fun t _ => ?_
    cases t.progress with
    | done => exact Nat.zero_le _
    | next w => cases w <;> simp [Progress.amount, Work.adds]
  have hcalls : s.system.total (Work.callsLeft (s.system.store.size + s.system.tasks.length)) ≤
      s.system.tasks.length * (s.system.store.size + s.system.tasks.length + 2) := by
    refine Tiers.sum_map_le fun t ht => ?_
    have hpos := List.length_pos_of_mem ht
    have hwithin := h t ht
    cases hp : t.progress with
    | done => exact Nat.zero_le _
    | next w =>
      rw [hp] at hwithin
      cases w with
      | feed span rest count =>
        have : rest.length ≤ _ := hwithin
        simp only [Progress.amount, Work.callsLeft]
        omega
      | _ =>
        simp only [Progress.amount, Work.callsLeft]
        omega
  exact ready?_settleFor (by omega) (Nat.add_le_add_right hcalls _)

/-! ### What is done with a schedule -/

theorem reaches_makeCall (s : Schedule E Out L) (i : Nat) (p : CallPoint) :
    s.system.Reaches [] (s.makeCall i p).system := by
  rcases s.makeCall_cases i p with ⟨hsystem, -⟩ | ⟨hsystem, -⟩
  · rw [hsystem]
    exact .refl s.system
  · rw [hsystem]
    exact .call s.system i _

theorem reaches_settleFor (fuel : Nat) (s : Schedule E Out L) :
    s.system.Reaches [] (settleFor fuel s).system := by
  induction fuel generalizing s with
  | zero => exact .refl s.system
  | succ fuel ih =>
    rw [settleFor]
    cases s.ready? with
    | none => exact .refl s.system
    | some next => exact (s.reaches_makeCall next.1 next.2).trans (ih _)

inductive Act (E Out L : Type) where
  | ask (client : Client L) (request : Request E Out)
  | release (point : CallPoint)
  | hold (point : CallPoint)
  | setMode (point : CallPoint) (mode : Option Mode)
  | await (task : Nat)
  | poll (handle : Nat)
  | forget (handle : Nat)
  | takeNoted

def Act.asked? : Act E Out L → Option (Client L × Request E Out)
  | .ask client r => some (client, r)
  | _ => none

def act (s : Schedule E Out L) : Act E Out L → Schedule E Out L
  | .ask client r => (s.ask client r).2
  | .release p => (s.release p).2
  | .hold p => (s.hold p).2
  | .setMode p m => s.setMode p m
  | .await i => (s.await i).2
  | .poll h => (s.poll h).2
  | .forget h => (s.forget h).2
  | .takeNoted => s.takeNoted.2

/-- A run of calls and the given requests led to the system, and all work has gone on that is not
held. -/
structure Follows (s₀ : Tiers E Out L) (asked : List (Client L × Request E Out))
    (s : Schedule E Out L) : Prop where
  reached : s₀.Reaches asked s.system
  settled : s.ready? = none

omit [Entity E] in
theorem ready?_congr {s t : Schedule E Out L} (tasks : t.system.tasks = s.system.tasks)
    (held : t.held = s.held) : t.ready? = s.ready? := by
  simp [ready?, pointOf, tasks, held]

section Follows

variable {s₀ : Tiers E Out L} {asked : List (Client L × Request E Out)}

theorem Follows.settle (bounded : s₀.Bounded) (h : s₀.Reaches asked s.system) :
    Follows s₀ asked s.settle := by
  refine ⟨by simpa [Schedule.settle] using h.trans (reaches_settleFor _ s), ready?_settle ?_⟩
  obtain ⟨events, -, -, hrun⟩ := h
  exact hrun ▸ bounded.run events

theorem Follows.of_eq (h : Follows s₀ asked s) {t : Schedule E Out L} (system : t.system = s.system)
    (held : t.held = s.held) : Follows s₀ asked t :=
  ⟨system ▸ h.reached, (ready?_congr (congrArg _ system) held).trans h.settled⟩

theorem Follows.ask (bounded : s₀.Bounded) (h : Follows s₀ asked s) (client : Client L)
    (r : Request E Out) : Follows s₀ (asked ++ [(client, r)]) (s.ask client r).2 := by
  have hreach := h.reached.trans (.ask s.system client r)
  rcases hask : s.system.ask client r with ⟨err | k, system⟩
  · obtain ⟨fault, hopening⟩ := Tiers.opening_of_ask_error hask
    have htasks := s.system.ask_tasks client r
    rw [hask] at hreach htasks
    simp only [Schedule.ask, hask]
    have hsame : system.tasks = s.system.tasks := by simpa [hopening, Except.toOption] using htasks
    refine ⟨hreach, ?_⟩
    rw [← h.settled]
    exact ready?_congr hsame rfl
  · rw [hask] at hreach
    simp only [Schedule.ask, hask]
    exact .settle bounded hreach

theorem Follows.release (bounded : s₀.Bounded) (h : Follows s₀ asked s) (p : CallPoint) :
    Follows s₀ asked (s.release p).2 := by
  unfold Schedule.release
  split
  · exact h
  · rename_i i _
    have := h.reached.trans (.call s.system i (s.conductAt p))
    rw [List.append_nil] at this
    exact .settle bounded this

theorem Follows.act (bounded : s₀.Bounded) (h : Follows s₀ asked s) (a : Act E Out L) :
    Follows s₀ (asked ++ a.asked?.toList) (s.act a) := by
  cases a with
  | ask client r => exact h.ask bounded client r
  | release p => simpa [Act.asked?, Schedule.act] using h.release bounded p
  | hold p =>
    simp only [Act.asked?, Option.toList_none, List.append_nil, Schedule.act, hold]
    split <;> exact h.of_eq rfl rfl
  | await i =>
    simp only [Act.asked?, Option.toList_none, List.append_nil, Schedule.act, await]
    split <;> exact h.of_eq rfl rfl
  | poll handle =>
    simp only [Act.asked?, Option.toList_none, List.append_nil, Schedule.act, poll]
    split
    · split <;> exact h.of_eq rfl rfl
    · exact h
  | setMode | forget | takeNoted =>
    simp only [Act.asked?, Option.toList_none, List.append_nil]
    exact h.of_eq rfl rfl

end Follows

/-- Whatever is done with a schedule, a run of its system does, which makes its requests in their
order; and no work is left that could go on. -/
theorem follows_acts {s₀ : Tiers E Out L} (idle : s₀.tasks = []) (acts : List (Act E Out L)) :
    Follows s₀ (acts.filterMap Act.asked?) (acts.foldl act (create s₀)) := by
  have bounded : s₀.Bounded := by simp [Tiers.Bounded, idle]
  have start : Follows s₀ [] (create s₀) := ⟨.refl s₀, by simp [ready?, create, idle]⟩
  have run (asked : List (Client L × Request E Out)) (s : Schedule E Out L)
      (h : Follows s₀ asked s) :
      Follows s₀ (asked ++ acts.filterMap Act.asked?) (acts.foldl act s) := by
    induction acts generalizing asked s with
    | nil => simpa using h
    | cons a rest ih =>
      have := ih _ _ (h.act bounded a)
      rw [List.append_assoc] at this
      rw [List.foldl_cons, List.filterMap_cons]
      cases ha : a.asked? <;> simpa [ha] using this
  simpa using run [] _ start

end Schedule

end CacheAside
