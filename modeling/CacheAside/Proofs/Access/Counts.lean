import CacheAside.Proofs.Access.Writes
import Mathlib.Data.List.Induction
/-!
What is counted. A task owes its signals from the moment it is started: those of its own operation
come whatever its calls come to, by and by. Only what the two tiers answer to a find adds to them:
a hit if the grid has the entity, and a put into the grid if the store has it. What has been
counted and what is owed are added up together, call by call; once all work has ended nothing is
owed, and the counts are those of the operations.
-/

set_option autoImplicit false

namespace CacheAside

variable {E Out L : Type}

namespace Work

/-- What work is to count, however its calls go. -/
def owed : Work E Out → List Signal
  | .readGrid .. => [.gridGet, .find]
  | .readStore .. => [.find]
  | .refill .. => [.putAsync]
  | .saveGrid .. => [.putAsync, .save]
  | .saveStore .. => [.save]
  | .removeGrid .. | .removeStore .. => [.remove]
  | .execute .. | .notify .. | .scan _ | .feed .. => []

def reads : Work E Out → Option Tier
  | .readGrid .. => some .grid
  | .readStore .. => some .store
  | _ => none

theorem LeadsTo.reads {v w : Work E Out} (h : v.LeadsTo w) {tier : Tier}
    (hw : w.reads = some tier) : tier = .store ∧ v.reads = some .grid := by
  cases h <;> cases hw
  exact ⟨rfl, rfl⟩

variable [Entity E] {map : EntryMap E} {store : RowStore E} {c : Conduct E}

def answer? (map : EntryMap E) (store : RowStore E) (c : Conduct E) :
    Work E Out → Option (Tier × Option E)
  | .readGrid key _ => some (.grid, (readAnswer id (map.get? key) c).join)
  | .readStore _ parts => some (.store, (readAnswer id (store.find parts).1.toOption.join c).join)
  | _ => none

omit [Entity E] in
theorem fst_answer? (map : EntryMap E) (store : RowStore E) (c : Conduct E) (v : Work E Out) :
    (v.answer? map store c).map Prod.fst = v.reads := by
  cases v <;> rfl

theorem reads_of_spawned {number : Nat} {listening : Bool} {v w : Work E Out}
    (h : w ∈ (v.advance number listening map store c).spawned) : w.reads = none := by
  have hnotice (hw : w.IsNotice) : w.reads = none := by cases w <;> first | rfl | cases hw
  cases v with
  | readGrid k parts =>
    simp only [advance] at h
    split at h <;> cases h
  | readStore k parts =>
    have hread (r : Except Fault (Option E) × RowStore E) :
        ∀ u ∈ (afterStoreRead map k r : Move E Out).spawned, u.reads = none := by
      obtain ⟨_ | _ | e, after⟩ := r <;> simp [afterStoreRead, reads]
    cases c with
    | fail | crash => cases h
    | serve | refuse | answer => exact hread _ w h
  | saveStore k e =>
    cases c with
    | fail | crash => cases h
    | serve | refuse | answer => exact hnotice (spawned_afterStoreWrite _ _ _ _ _ _ w h)
  | removeStore k e =>
    cases c with
    | fail | crash => cases h
    | serve | refuse | answer => exact hnotice (spawned_afterStoreWrite _ _ _ _ _ _ w h)
  | refill | saveGrid | removeGrid | scan => cases c <;> cases h
  | execute k p =>
    cases c <;> simp only [advance, failure] at h <;> (try split at h) <;> cases h
  | notify => cases h
  | feed span rest count =>
    rw [(advance_feed number listening map store span rest count).2.1] at h
    cases h

end Work

def Progress.owed : Progress E Out → List Signal
  | .next w => w.owed
  | .done _ => []

def Tier.signals : Tier × Option E → List Signal
  | (.grid, some _) => [.hit]
  | (.store, some _) => [.putAsync]
  | (_, none) => []

namespace Work

variable [Entity E] (number : Nat) (listening : Bool) (map : EntryMap E) (store : RowStore E)
  (c : Conduct E)

omit [Entity E] in
theorem signals_afterStoreWrite (event : EntryEvent) (signal : Signal) (e : E)
    (r : Except Fault Bool × RowStore E) :
    let m : Move E Out := afterStoreWrite map number listening event signal e r
    m.signals = [signal] ∧ m.progress.owed = [] ∧ m.spawned.flatMap owed = [] := by
  obtain ⟨_ | applied, after⟩ := r
  · exact ⟨rfl, rfl, rfl⟩
  · refine ⟨rfl, rfl, ?_⟩
    simp only [afterStoreWrite]
    split <;> rfl

theorem signals_afterStoreRead (key : Key) (r : Except Fault (Option E) × RowStore E) :
    let m : Move E Out := afterStoreRead map key r
    m.signals = [.find] ∧ m.progress.owed = [] ∧
      m.spawned.flatMap owed = Tier.signals (.store, r.1.toOption.join) := by
  obtain ⟨_ | _ | e, after⟩ := r <;> exact ⟨rfl, rfl, rfl⟩

omit [Entity E] in
theorem perm_of_signals {m : Move E Out} {v : Work E Out} {signals more : List Signal}
    (hm : m.signals = signals ∧ m.progress.owed = [] ∧ m.spawned.flatMap owed = more)
    (hv : v.owed = signals) :
    (m.signals ++ (m.progress.owed ++ m.spawned.flatMap owed)).Perm (v.owed ++ more) := by
  obtain ⟨hs, hp, hsp⟩ := hm
  rw [hs, hp, hsp, hv, List.nil_append]

/-- What the next call adds to the signals that are owed. -/
def gained (map : EntryMap E) (store : RowStore E) (c : Conduct E) (v : Work E Out) :
    List Signal :=
  ((v.answer? map store c).map Tier.signals).getD []

/-- What a move counts and what is owed after it is what was owed and what the call adds. -/
theorem signals_advance (v : Work E Out) :
    let m := v.advance number listening map store c
    (m.signals ++ (m.progress.owed ++ m.spawned.flatMap owed)).Perm
      (v.owed ++ v.gained map store c) := by
  cases v with
  | readGrid k parts =>
    simp only [advance, gained, answer?]
    rcases readAnswer id (map.get? k) c with _ | _ | e
    · exact .refl _
    · exact .refl _
    · exact (List.Perm.swap ..).cons _
  | readStore k parts =>
    cases c with
    | fail | crash => exact .refl _
    | serve | refuse =>
      exact perm_of_signals (v := .readStore k parts)
        (signals_afterStoreRead map k (store.find parts)) rfl
    | answer found =>
      exact perm_of_signals (v := .readStore k parts)
        (signals_afterStoreRead map k (.ok found, store)) rfl
  | refill k e => cases c <;> exact .refl _
  | saveGrid k e => cases c <;> exact .refl _
  | removeGrid k e => cases c <;> exact .refl _
  | saveStore k e =>
    cases c with
    | fail | crash => exact .refl _
    | refuse =>
      exact perm_of_signals (v := .saveStore k e)
        (signals_afterStoreWrite number listening map .saved .save e (.ok false, store)) rfl
    | serve | answer =>
      exact perm_of_signals (v := .saveStore k e)
        (signals_afterStoreWrite number listening map .saved .save e (store.save e)) rfl
  | removeStore k e =>
    cases c with
    | fail | crash => exact .refl _
    | refuse =>
      exact perm_of_signals (v := .removeStore k e)
        (signals_afterStoreWrite number listening map .removed .remove e (.ok false, store)) rfl
    | serve | answer =>
      exact perm_of_signals (v := .removeStore k e)
        (signals_afterStoreWrite number listening map .removed .remove e (store.remove e)) rfl
  | execute k p =>
    cases c with
    | fail | crash => exact .refl _
    | serve | refuse | answer =>
      simp only [advance, failure]
      split <;> exact .refl _
  | notify origin event e => exact .refl _
  | scan span => cases c <;> exact .refl _
  | feed span rest count =>
    cases c <;> cases rest <;> simp only [advance] <;> (try split) <;> exact .refl _

end Work

/-! ### Requests and answers -/

namespace Request

def isFind : Request E Out → Bool
  | .find _ => true
  | _ => false

def isSave : Request E Out → Bool
  | .save _ => true
  | _ => false

def isRemove : Request E Out → Bool
  | .remove _ => true
  | _ => false

def isRefill : Request E Out → Bool
  | .refill .. => true
  | _ => false

def isUnstamped [Entity E] : Request E Out → Bool
  | .save e | .remove e | .execute e _ => (Entity.stamped? e).isNone
  | .find _ | .refill .. | .load _ => false

def owed : Request E Out → List Signal
  | .find _ => [.gridGet, .find]
  | .save _ => [.putAsync, .save]
  | .remove _ => [.remove]
  | .refill .. => [.putAsync]
  | .execute .. | .load _ => []

theorem owed_of_opening [Entity E] {r : Request E Out} {w : Work E Out}
    (h : r.opening = .ok w) : w.owed = r.owed := by
  have keyed {x : Except KeyError Key} {f : Key → Work E Out} (hf : ∀ k, (f k).owed = r.owed)
      (hx : x.map f = .ok w) : w.owed = r.owed := by
    cases x with
    | error err => cases hx
    | ok k =>
      cases hx
      exact hf k
  cases r with
  | find | save | remove | execute => exact keyed (fun _ => rfl) h
  | refill | load =>
    cases h
    rfl

theorem find_of_reads [Entity E] {r : Request E Out} {w : Work E Out} {tier : Tier}
    (h : r.opening = .ok w) (hw : w.reads = some tier) : ∃ parts, r = .find parts := by
  have keyed {x : Except KeyError Key} {f : Key → Work E Out} (hf : ∀ k, (f k).reads = none)
      (hx : x.map f = .ok w) : w.reads = none := by
    cases x with
    | error err => cases hx
    | ok k =>
      cases hx
      exact hf k
  cases r with
  | find parts => exact ⟨parts, rfl⟩
  | save | remove | execute => simp [keyed (fun _ => rfl) h] at hw
  | refill | load =>
    cases h
    cases hw

end Request

structure Answered (E L : Type) where
  task : Nat
  client : Client L
  tier : Tier
  found : Option E

namespace Answered

def isHit (i : Nat) (tier : Tier) (a : Answered E L) : Bool :=
  a.client.meter = i && a.tier = tier && a.found.isSome

end Answered

def Event.asks (i : Nat) (sort : Request E Out → Bool) : Event E Out L → Bool
  | .ask client r => client.meter = i && sort r
  | .call .. | .lose _ => false

/-- What the clients of a meter have measured, by what they have asked for and what the tiers have
answered. -/
def tally [Entity E] (i : Nat) (events : List (Event E Out L)) (answers : List (Answered E L)) :
    Signal → Nat
  | .find | .gridGet => events.countP (·.asks i Request.isFind)
  | .hit => answers.countP (·.isHit i .grid)
  | .save => events.countP (·.asks i Request.isSave)
  | .remove => events.countP (·.asks i Request.isRemove)
  | .putAsync =>
    events.countP (·.asks i Request.isSave) + answers.countP (·.isHit i .store) +
      events.countP (·.asks i Request.isRefill)
  | .createKey =>
    events.countP (·.asks i Request.isFind) + events.countP (·.asks i Request.isUnstamped)

section Tally

variable [Entity E] (i : Nat) (signal : Signal)

theorem tally_append (as bs : List (Event E Out L)) (xs ys : List (Answered E L)) :
    tally i (as ++ bs) (xs ++ ys) signal = tally i as xs signal + tally i bs ys signal := by
  cases signal <;> simp only [tally, List.countP_append] <;> omega

theorem tally_ask (client : Client L) (r : Request E Out) :
    tally i [.ask client r] [] signal =
      if client.meter = i then (r.derivations ++ r.owed).count signal else 0 := by
  by_cases hm : client.meter = i
  · have unstamped (e : E) : (if (Entity.stamped? e).isSome = true then [] else [.createKey]) =
        if (Entity.stamped? e).isNone = true then [Signal.createKey] else [] := by
      cases Entity.stamped? e <;> rfl
    cases r <;> cases signal <;>
      simp [tally, Event.asks, hm, Request.isFind, Request.isSave, Request.isRemove,
        Request.isRefill, Request.isUnstamped, Request.derivations, Request.owed, unstamped] <;>
      split <;> rfl
  · cases signal <;> simp [tally, Event.asks, hm]

theorem tally_silent (ev : Event E Out L) (hev : ∀ sort, ev.asks i sort = false) :
    tally i [ev] [] signal = 0 := by
  cases signal <;> simp [tally, hev]

theorem tally_answer (ev : Event E Out L) (hev : ∀ sort, ev.asks i sort = false)
    (a : Answered E L) :
    tally i [ev] [a] signal =
      if a.client.meter = i then (Tier.signals (a.tier, a.found)).count signal else 0 := by
  obtain ⟨n, client, tier, found⟩ := a
  by_cases hm : client.meter = i
  · cases signal <;> cases tier <;> cases found <;>
      simp [tally, hev, Answered.isHit, hm, Tier.signals]
  · cases signal <;> simp [tally, hev, Answered.isHit, hm]

end Tally

namespace Tiers

def owed (s : Tiers E Out L) (i : Nat) : List Signal :=
  s.tasks.flatMap fun t => if t.client.meter = i then t.progress.owed else []

/-- Counted and owed together, of one signal on one meter. -/
def accrued (s : Tiers E Out L) (i : Nat) (signal : Signal) : UInt64 :=
  (s.meter i).count signal + .ofNat ((s.owed i).count signal)

section Meters

variable {s : Tiers E Out L} {client : Client L} {m : Move E Out} {v : Work E Out} {i n : Nat}

theorem count_foldl_increment (signals : List Signal) (meter : Meter) (signal : Signal) :
    (signals.foldl Meter.increment meter).count signal =
      meter.count signal + .ofNat (signals.count signal) := by
  induction signals generalizing meter with
  | nil => simp
  | cons x rest ih =>
    rw [List.foldl_cons, ih, Meter.count_increment, List.count_cons, UInt64.ofNat_add]
    by_cases h : signal = x
    · subst h
      simp [UInt64.add_assoc, UInt64.add_comm 1]
    · simp [h, Ne.symm h]

theorem meter_count (s : Tiers E Out L) (hi : i < s.meters.length) (j : Nat)
    (signals : List Signal) (signal : Signal) :
    ((s.count j signals).meter i).count signal =
      (s.meter i).count signal + .ofNat (if j = i then signals.count signal else 0) := by
  simp only [meter, Tiers.count, List.getD_eq_getElem?_getD]
  by_cases h : j = i
  · subst h
    rw [List.getElem?_modify_eq, List.getElem?_eq_getElem hi]
    simp [count_foldl_increment]
  · rw [List.getElem?_modify_ne _ _ h]
    simp [h]

theorem length_meters_count (s : Tiers E Out L) (j : Nat) (signals : List Signal) :
    (s.count j signals).meters.length = s.meters.length := by
  simp [Tiers.count]

theorem count_flatMap_set {α β : Type} [BEq β] [LawfulBEq β] {tasks : List α} {t u : α}
    {f : α → List β} (hi : tasks[n]? = some t) (x : β) :
    ((tasks.set n u).flatMap f).count x + (f t).count x =
      (tasks.flatMap f).count x + (f u).count x := by
  induction tasks generalizing n with
  | nil => simp at hi
  | cons v rest ih =>
    cases n with
    | zero =>
      obtain rfl : v = t := by simpa using hi
      simp only [List.set_cons_zero, List.flatMap_cons, List.count_append]
      omega
    | succ n =>
      have := ih (n := n) (by simpa using hi)
      simp only [List.set_cons_succ, List.flatMap_cons, List.count_append]
      omega

/-- A move settles what its task owed; the task goes on owing for what comes next, and what it
spawns owes for itself. -/
theorem count_owed_apply (h : s.DueFor client n v) (i : Nat) (signal : Signal) :
    ((s.apply n client m).owed i).count signal +
        (if client.meter = i then v.owed.count signal else 0) =
      (s.owed i).count signal + if client.meter = i then
        (m.progress.owed ++ m.spawned.flatMap Work.owed).count signal else 0 := by
  have hset := count_flatMap_set (u := (⟨client, m.progress⟩ : Task E Out L))
    (f := fun t => if t.client.meter = i then t.progress.owed else []) h signal
  have hspawned : (m.spawned.map fun w => (⟨client, .next w⟩ : Task E Out L)).flatMap
      (fun t => if t.client.meter = i then t.progress.owed else []) =
        if client.meter = i then m.spawned.flatMap Work.owed else [] := by
    by_cases hm : client.meter = i <;> simp [hm, List.flatMap_map, Progress.owed]
  have htasks : (s.apply n client m).owed i =
      (s.tasks.set n ⟨client, m.progress⟩).flatMap
          (fun t => if t.client.meter = i then t.progress.owed else []) ++
        if client.meter = i then m.spawned.flatMap Work.owed else [] := by
    rw [← hspawned, ← List.flatMap_append]
    rfl
  have hv : (Progress.next v : Progress E Out).owed = v.owed := rfl
  rw [htasks, List.count_append]
  by_cases hm : client.meter = i
  · simp only [hm, if_true, List.count_append, hv] at hset ⊢
    simp only [owed]
    omega
  · simp only [hm, if_false, List.count_nil] at hset ⊢
    simp only [owed]
    omega

theorem meter_apply (s : Tiers E Out L) (hi : i < s.meters.length) (n : Nat) (client : Client L)
    (m : Move E Out) (signal : Signal) :
    ((s.apply n client m).meter i).count signal = (s.meter i).count signal +
      .ofNat (if client.meter = i then m.signals.count signal else 0) :=
  s.meter_count hi client.meter m.signals signal

variable [Entity E]

theorem accrued_call (h : s.DueFor client n v) (hi : i < s.meters.length) (c : Conduct E)
    (signal : Signal) :
    (s.call n c).accrued i signal = s.accrued i signal +
      .ofNat (if client.meter = i then (v.gained s.map s.store c).count signal else 0) := by
  rw [call_of_dueFor h, accrued, accrued, meter_apply s hi]
  have howed := count_owed_apply (m := v.advance n client.listener.isSome s.map s.store c) h i
    signal
  have hmove := (v.signals_advance n client.listener.isSome s.map s.store c).count_eq signal
  simp only [UInt64.add_assoc, ← UInt64.ofNat_add]
  congr 2
  by_cases hm : client.meter = i
  · simp only [hm, if_true, List.count_append] at howed hmove ⊢
    omega
  · simp only [hm, if_false] at howed ⊢
    omega

theorem accrued_ask (s : Tiers E Out L) (client : Client L) {r : Request E Out}
    (hr : r.opening = .ok v) (hi : i < s.meters.length) (signal : Signal) :
    (s.ask client r).2.accrued i signal = s.accrued i signal +
      .ofNat (if client.meter = i then (r.derivations ++ r.owed).count signal else 0) := by
  have howed : ((s.ask client r).2.owed i).count signal = (s.owed i).count signal +
      if client.meter = i then r.owed.count signal else 0 := by
    rw [owed, ask_tasks, hr, List.flatMap_append, List.count_append, ← Request.owed_of_opening hr]
    by_cases hm : client.meter = i <;> simp [owed, Except.toOption, hm, Progress.owed]
  have hmeter : ((s.ask client r).2.meter i).count signal = (s.meter i).count signal +
      .ofNat (if client.meter = i then r.derivations.count signal else 0) := by
    rw [ask_snd, hr]
    exact s.meter_count hi client.meter r.derivations signal
  rw [accrued, accrued, hmeter, howed]
  simp only [UInt64.add_assoc, ← UInt64.ofNat_add]
  congr 2
  by_cases hm : client.meter = i
  · simp only [hm, if_true, List.count_append]
    omega
  · simp only [hm, if_false]
    omega

end Meters

/-! ### Runs -/

section Runs

variable [Entity E] {s : Tiers E Out L} {client : Client L} {v : Work E Out} {i n : Nat}

def answered (s : Tiers E Out L) : Event E Out L → List (Answered E L)
  | .call n c =>
    (s.tasks[n]?.bind fun t => t.work?.bind fun w =>
      (w.answer? s.map s.store c).map fun a => ⟨n, t.client, a.1, a.2⟩).toList
  | .ask .. | .lose _ => []

def answers (s : Tiers E Out L) : List (Event E Out L) → List (Answered E L)
  | [] => []
  | ev :: rest => s.answered ev ++ (s.step ev).answers rest

omit [Entity E] in
theorem answered_of_dueFor (h : s.DueFor client n v) (c : Conduct E) :
    s.answered (.call n c) =
      ((v.answer? s.map s.store c).map fun a => ⟨n, client, a.1, a.2⟩).toList := by
  have h : s.tasks[n]? = some ⟨client, .next v⟩ := h
  simp [answered, h, Task.work?]

omit [Entity E] in
theorem answered_of_not_due (h : ∀ w, ¬ s.Due n w) (c : Conduct E) :
    s.answered (.call n c) = [] := by
  cases ht : s.tasks[n]? with
  | none => simp [answered, ht]
  | some t =>
    obtain ⟨client, w | r⟩ := t
    · exact absurd ⟨client, ht⟩ (h w)
    · simp [answered, ht, Task.work?]

theorem length_meters_step (s : Tiers E Out L) (ev : Event E Out L) :
    (s.step ev).meters.length = s.meters.length := by
  cases ev with
  | lose k => rfl
  | ask client r =>
    rw [step, ask_snd]
    cases r.opening <;> exact s.length_meters_count _ _
  | call n c =>
    rcases s.call_dueFor_cases n c with ⟨-, hcall⟩ | ⟨client, v, hv⟩
    · rw [step, hcall]
    · rw [step, call_of_dueFor hv]
      exact s.length_meters_count _ _

/-- One event adds to the whole what it is tallied for. -/
theorem accrued_step (hi : i < s.meters.length) {ev : Event E Out L}
    (derived : ∀ client r, ev = .ask client r → ∃ w, r.opening = .ok w) (signal : Signal) :
    (s.step ev).accrued i signal =
      s.accrued i signal + .ofNat (tally i [ev] (s.answered ev) signal) := by
  cases ev with
  | lose k =>
    rw [answered, tally_silent i signal _ fun _ => rfl]
    exact (UInt64.add_zero _).symm
  | ask client r =>
    obtain ⟨w, hw⟩ := derived client r rfl
    rw [answered, tally_ask]
    exact s.accrued_ask client hw hi signal
  | call n c =>
    rcases s.call_dueFor_cases n c with ⟨hno, hcall⟩ | ⟨client, v, hv⟩
    · rw [answered_of_not_due hno, tally_silent i signal _ fun _ => rfl, step, hcall]
      exact (UInt64.add_zero _).symm
    · rw [answered_of_dueFor hv, step, accrued_call hv hi, Work.gained]
      cases v.answer? s.map s.store c with
      | none => simp [tally_silent i signal (.call n c : Event E Out L) fun _ => rfl]
      | some a =>
        simp only [Option.map_some, Option.toList_some, Option.getD_some]
        rw [tally_answer i signal _ fun _ => rfl]

theorem accrued_run (hi : i < s.meters.length) {events : List (Event E Out L)}
    (derived : ∀ client r, .ask client r ∈ events → ∃ w, r.opening = .ok w) (signal : Signal) :
    (s.run events).accrued i signal =
      s.accrued i signal + .ofNat (tally i events (s.answers events) signal) := by
  induction events generalizing s with
  | nil => cases signal <;> exact (UInt64.add_zero _).symm
  | cons ev rest ih =>
    have hstep := accrued_step hi (fun client r h => derived client r (h ▸ .head _)) signal
    have hrest := ih (s := s.step ev) (by rwa [length_meters_step])
      fun client r h => derived client r (.tail _ h)
    have htally := tally_append i signal [ev] rest (s.answered ev) ((s.step ev).answers rest)
    rw [List.singleton_append] at htally
    rw [answers, htally, UInt64.ofNat_add, ← UInt64.add_assoc, ← hstep, ← hrest]
    rfl

omit [Entity E] in
theorem accrued_of_isQuiet (h : s.isQuiet = true) (i : Nat) (signal : Signal) :
    s.accrued i signal = (s.meter i).count signal := by
  have howed : s.owed i = [] := by
    refine List.flatMap_eq_nil_iff.2 fun t ht => ?_
    have hdone := List.all_eq_true.1 h t ht
    obtain ⟨client, w | r⟩ := t
    · cases hdone
    · exact ite_self []
  rw [accrued, howed]
  exact UInt64.add_zero _

end Runs

/-! ### Whose answers -/

section Answers

variable [Entity E] {s : Tiers E Out L} {client : Client L} {v : Work E Out} {n : Nat}
  {past : List (Event E Out L)}

theorem answers_append (s : Tiers E Out L) (as bs : List (Event E Out L)) :
    s.answers (as ++ bs) = s.answers as ++ (s.run as).answers bs := by
  induction as generalizing s with
  | nil => rfl
  | cons ev rest ih =>
    have h : s.run (ev :: rest) = (s.step ev).run rest := rfl
    simp only [List.cons_append, answers, ih, h, List.append_assoc]

theorem answers_append_singleton (s : Tiers E Out L) (past : List (Event E Out L))
    (ev : Event E Out L) :
    s.answers (past ++ [ev]) = s.answers past ++ (s.run past).answered ev := by
  rw [answers_append, answers, answers, List.append_nil]

def StartedByFind (s : Tiers E Out L) (events : List (Event E Out L)) (client : Client L)
    (n : Nat) : Prop :=
  ∃ past parts rest, events = past ++ .ask client (.find parts) :: rest ∧
    (s.run past).tasks.length = n

theorem StartedByFind.append (h : s.StartedByFind past client n) (more : List (Event E Out L)) :
    s.StartedByFind (past ++ more) client n := by
  obtain ⟨before, parts, rest, rfl, hn⟩ := h
  exact ⟨before, parts, rest ++ more, by simp, hn⟩

/-- Finds read each tier once: a task that reads is that of a find, and one that has read reads
nothing more, but for the store after the grid. -/
structure Reading (s : Tiers E Out L) (past : List (Event E Out L)) : Prop where
  due : ∀ client n w tier, (s.run past).DueFor client n w → w.reads = some tier →
    s.StartedByFind past client n
  answered : ∀ a ∈ s.answers past, s.StartedByFind past a.client a.task
  bounded : ∀ a ∈ s.answers past, a.task < (s.run past).tasks.length
  spent : ∀ a ∈ s.answers past, ∀ w tier, (s.run past).Due a.task w → w.reads = some tier →
    a.tier = .grid ∧ tier = .store
  once : ((s.answers past).map fun a => (a.task, a.tier)).Nodup

theorem Reading.of_isQuiet (h : s.isQuiet = true) : s.Reading [] where
  due _ n w _ hw _ := absurd hw.due (not_due_of_isQuiet h n w)
  answered _ ha := nomatch ha
  bounded _ ha := nomatch ha
  spent _ ha := nomatch ha
  once := .nil

theorem Reading.of_silent (h : s.Reading past) {ev : Event E Out L}
    (silent : (s.run past).answered ev = [])
    (grows : (s.run past).tasks.length ≤ ((s.run past).step ev).tasks.length)
    (due : ∀ client n w tier, ((s.run past).step ev).DueFor client n w → w.reads = some tier →
      (s.run past).DueFor client n w ∨
        (s.run past).tasks.length ≤ n ∧ s.StartedByFind (past ++ [ev]) client n) :
    s.Reading (past ++ [ev]) := by
  have hanswers : s.answers (past ++ [ev]) = s.answers past := by
    rw [answers_append_singleton, silent, List.append_nil]
  have hrun : s.run (past ++ [ev]) = (s.run past).step ev := s.run_append past [ev]
  refine ⟨?_, ?_, ?_, ?_, ?_⟩
  · intro client n w tier hw hr
    rw [hrun] at hw
    rcases due client n w tier hw hr with hd | ⟨-, hnew⟩
    · exact (h.due client n w tier hd hr).append [ev]
    · exact hnew
  · rw [hanswers]
    exact fun a ha => (h.answered a ha).append [ev]
  · rw [hanswers, hrun]
    exact fun a ha => Nat.lt_of_lt_of_le (h.bounded a ha) grows
  · rw [hanswers, hrun]
    rintro a ha w tier ⟨client, hw⟩ hr
    rcases due client a.task w tier hw hr with hd | ⟨hle, -⟩
    · exact h.spent a ha w tier hd.due hr
    · exact absurd (h.bounded a ha) (Nat.not_lt.2 hle)
  · rw [hanswers]
    exact h.once

theorem Reading.ask (h : s.Reading past) (client : Client L) (r : Request E Out) :
    s.Reading (past ++ [.ask client r]) := by
  refine h.of_silent rfl (by simp [step, ask_tasks]) fun other n w tier hw hr => ?_
  have hw : ((s.run past).ask client r).2.tasks[n]? = some ⟨other, .next w⟩ := hw
  rw [ask_tasks] at hw
  rcases Nat.lt_or_ge n (s.run past).tasks.length with hn | hn
  · rw [List.getElem?_append_left hn] at hw
    exact .inl hw
  · rw [List.getElem?_append_right hn] at hw
    refine .inr ⟨hn, ?_⟩
    cases ho : r.opening with
    | error err => simp [ho, Except.toOption] at hw
    | ok v =>
      obtain ⟨hzero, rfl, rfl⟩ : n - (s.run past).tasks.length = 0 ∧ client = other ∧ v = w := by
        simpa [ho, Except.toOption, List.getElem?_singleton] using hw
      obtain ⟨parts, rfl⟩ := Request.find_of_reads ho hr
      exact ⟨past, parts, [], rfl, by omega⟩

theorem Reading.call (h : s.Reading past) (n : Nat) (c : Conduct E) :
    s.Reading (past ++ [.call n c]) := by
  have grows := (s.run past).length_tasks_call n c
  rcases (s.run past).call_dueFor_cases n c with ⟨hno, hcall⟩ | ⟨client, v, hv⟩
  · exact h.of_silent (answered_of_not_due hno c) grows
      fun _ _ _ _ hw _ => .inl (by rwa [step, hcall] at hw)
  -- Whoever reads after the call did so before, or is the caller going on from the grid.
  have hdue {other : Client L} {i : Nat} {w : Work E Out} {tier : Tier}
      (hw : ((s.run past).call n c).DueFor other i w) (hr : w.reads = some tier) :
      i ≠ n ∧ (s.run past).DueFor other i w ∨
        (i = n ∧ other = client) ∧ tier = .store ∧ v.reads = some .grid := by
    rw [call_of_dueFor hv, DueFor, getElem?_tasks_apply hv.lt] at hw
    split at hw
    · rename_i hin
      obtain ⟨rfl, hnext⟩ := Task.mk.inj (Option.some.inj hw)
      exact .inr ⟨⟨hin, rfl⟩, (Work.leadsTo_of_advance hnext).reads hr⟩
    · rename_i hin
      split at hw
      · exact .inl ⟨hin, hw⟩
      · obtain ⟨u, hu, htask⟩ := Option.map_eq_some_iff.1 hw
        cases htask
        simp [Work.reads_of_spawned (List.mem_of_getElem? hu)] at hr
  have hrun : s.run (past ++ [.call n c]) = (s.run past).call n c := s.run_append past [.call n c]
  have hanswer := v.fst_answer? (s.run past).map (s.run past).store c
  cases ha : v.answer? (s.run past).map (s.run past).store c with
  | none =>
    refine h.of_silent (by rw [answered_of_dueFor hv, ha]; rfl) grows fun _ _ _ _ hw hr => ?_
    rcases hdue hw hr with ⟨-, hd⟩ | ⟨-, -, hgrid⟩
    · exact .inl hd
    · rw [ha, hgrid] at hanswer
      cases hanswer
  | some p =>
    obtain ⟨tier, found⟩ := p
    have hv' : v.reads = some tier := by rw [← hanswer, ha]; rfl
    have hstarted := h.due client n v tier hv hv'
    have hanswers : s.answers (past ++ [.call n c]) =
        s.answers past ++ [⟨n, client, tier, found⟩] := by
      rw [answers_append_singleton, answered_of_dueFor hv, ha]
      rfl
    have hspent {a : Answered E L} (hmem : a ∈ s.answers past) (htask : a.task = n) :
        a.tier = .grid ∧ tier = .store :=
      h.spent a hmem v tier (htask ▸ hv.due) hv'
    refine ⟨?_, ?_, ?_, ?_, ?_⟩
    · intro other i w t hw hr
      rw [hrun] at hw
      rcases hdue hw hr with ⟨-, hd⟩ | ⟨⟨rfl, rfl⟩, -, -⟩
      · exact (h.due other i w t hd hr).append _
      · exact hstarted.append _
    · rw [hanswers]
      refine fun a ha => (List.mem_append.1 ha).elim (fun ha => (h.answered a ha).append _) ?_
      rintro (_ | ⟨_, ⟨⟩⟩)
      exact hstarted.append _
    · rw [hanswers, hrun]
      refine fun a ha => Nat.lt_of_lt_of_le ((List.mem_append.1 ha).elim (h.bounded a) ?_) grows
      rintro (_ | ⟨_, ⟨⟩⟩)
      exact hv.lt
    · rw [hanswers, hrun]
      rintro a ha w t ⟨other, hw⟩ hr
      rcases List.mem_append.1 ha with ha | ha
      · rcases hdue hw hr with ⟨-, hd⟩ | ⟨⟨htask, -⟩, -, hgrid⟩
        · exact h.spent a ha w t hd.due hr
        · obtain ⟨-, rfl⟩ := hspent ha htask
          rw [hv'] at hgrid
          cases hgrid
      · obtain rfl := List.mem_singleton.1 ha
        rcases hdue hw hr with ⟨hne, -⟩ | ⟨-, hstore, hgrid⟩
        · exact absurd rfl hne
        · exact ⟨Option.some.inj (hv'.symm.trans hgrid), hstore⟩
    · rw [hanswers, List.map_append, List.nodup_append]
      refine ⟨h.once, by simp, ?_⟩
      rintro x hx y hy rfl
      obtain ⟨a, ha, rfl⟩ := List.mem_map.1 hx
      have heq := List.mem_singleton.1 hy
      obtain ⟨hgrid, hstore⟩ := hspent ha (congrArg Prod.fst heq)
      have htier : a.tier = tier := congrArg Prod.snd heq
      rw [hgrid, hstore] at htier
      cases htier

theorem Reading.run (h : s.isQuiet = true) (events : List (Event E Out L)) : s.Reading events := by
  induction events using List.reverseRecOn with
  | nil => exact .of_isQuiet h
  | append_singleton past ev ih =>
    cases ev with
    | ask client r => exact ih.ask client r
    | call n c => exact ih.call n c
    | lose k => exact ih.of_silent rfl (Nat.le_refl _) fun _ _ _ _ hw _ => .inl hw

end Answers

/-! ### What is counted -/

section Counts

variable [Entity E]

/-- A save in the two steps of its making: the key is resolved for the stamp, and once more for
the entry that is replaced. -/
def saveInSteps (s : Tiers E Out L) (client : Client L) (e : E) : Result Key × Tiers E Out L :=
  match s.resolveKey client e with
  | (.error err, s) => (.error err, s)
  | (.ok k, s) =>
    match s.resolveKey client (Entity.stamp k e) with
    | (.error err, s) => (.error err, s)
    | (.ok l, s) => (.ok l, s.start client (.saveGrid l (Entity.stamp k e)))

theorem ask_save_eq [LawfulEntity E] (s : Tiers E Out L) (client : Client L) (e : E) :
    s.ask client (.save e) = s.saveInSteps client e := by
  rw [ask, saveInSteps]
  rcases s.resolveKey client e with ⟨_ | k, t⟩
  · rfl
  · simp only [resolveKey, LawfulEntity.stamped?_stamp]

/-- Once all work has ended, every meter has counted what the operations of its clients and the
answers to their finds come to, whatever became of their calls. Each tier answers a find at most
once, and a save derives a key at most once. -/
theorem counts_eq_tally [LawfulEntity E] {s : Tiers E Out L} (quiet : s.isQuiet = true)
    {events : List (Event E Out L)}
    (derived : ∀ client r, .ask client r ∈ events → ∃ w, r.opening = .ok w)
    (ended : (s.run events).isQuiet = true) :
    (∀ i < s.meters.length, ∀ signal, ((s.run events).meter i).count signal =
        (s.meter i).count signal + .ofNat (tally i events (s.answers events) signal)) ∧
      (∀ a ∈ s.answers events, s.StartedByFind events a.client a.task) ∧
      ((s.answers events).map fun a => (a.task, a.tier)).Nodup ∧
      ∀ (t : Tiers E Out L) client e, t.ask client (.save e) = t.saveInSteps client e := by
  have reading := Reading.run quiet events
  refine ⟨fun i hi signal => ?_, reading.answered, reading.once, ask_save_eq⟩
  rw [← accrued_of_isQuiet ended, accrued_run hi derived, accrued_of_isQuiet quiet]

end Counts

end Tiers

namespace Turnover

open Item

def idle : Tiers Item Unit Unit :=
  (Tiers.create ⟨"items", .bulk, ∅⟩ .empty).addMeter.addMeter

def events : List (Event Item Unit Unit) :=
  [.ask .first (.find [.int 7]), .call 0 .serve, .ask .second (.save (sample "new")),
    .call 0 (.answer (some (sample "old"))), .call 1 .serve, .call 2 (.crash "refill"),
    .call 1 (.fail (.ofText "down")), .ask .first (.find [.int 7]), .call 3 .serve,
    .ask .first (.remove (stampedSample "new")), .call 4 (.fail (.ofText "down")),
    .ask .second (.execute (sample "new") fun _ => .error "broken"), .call 5 .serve,
    .ask .first (.refill sampleKey (stampedSample "newer")), .call 6 .serve]

theorem derived (client : Client Unit) (r : Request Item Unit) (h : .ask client r ∈ events) :
    ∃ w, r.opening = .ok w := by
  simp only [events, List.mem_cons, Event.ask.injEq, reduceCtorEq, List.not_mem_nil, or_false,
    false_or] at h
  rcases h with ⟨-, rfl⟩ | ⟨-, rfl⟩ | ⟨-, rfl⟩ | ⟨-, rfl⟩ | ⟨-, rfl⟩ | ⟨-, rfl⟩ <;> exact ⟨_, rfl⟩

theorem all_counted :
    (idle.run events).isQuiet = true ∧
      Signal.all.map ((idle.run events).meter 0).count = [2, 0, 1, 2, 1, 2, 2] ∧
      Signal.all.map ((idle.run events).meter 1).count = [0, 1, 0, 2, 0, 0, 1] := by
  have quiet : (idle.run events).isQuiet = true := rfl
  obtain ⟨counts, -⟩ := Tiers.counts_eq_tally (s := idle) rfl derived quiet
  refine ⟨quiet, ?_, ?_⟩
  · rw [funext (counts 0 (by decide))]
    rfl
  · rw [funext (counts 1 (by decide))]
    rfl

end Turnover

end CacheAside
