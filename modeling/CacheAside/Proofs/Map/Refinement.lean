import CacheAside.Proofs.Map.Calls
import Mathlib.Data.Set.Card
/-!
A map in the hands of its host cannot be told from a function from keys to values, as long as the
host has no reason to take entries out: the map is never beyond its capacity and no entry has grown
too old. A map that retains nothing cannot be told from one that is always empty.

The host may take an entry out whenever it has a reason to, and it has a clock: entries age from
when they were written, and idle from when they were last read or written.
-/

set_option autoImplicit false

namespace CacheAside

variable {V α : Type}

/-! ### Plain maps -/

abbrev PlainMap (V : Type) : Type :=
  Key → Option V

abbrev Reply : Type 1 :=
  (α : Type) × α

inductive HostStep (V : Type) : Type 1 where
  | call {α : Type} (c : MapCall V α)
  | wait (d : Nanos)
  | drop (k : Key)

def HostStep.time : HostStep V → Nanos
  | .wait d => d
  | .call _ | .drop _ => 0

namespace PlainMap

def empty : PlainMap V :=
  fun _ => none

noncomputable def count (p : PlainMap V) : Nat :=
  Set.ncard {k | (p k).isSome}

/-- A processor runs once on the value of its key, which is what it leaves from then on; one that
crashes changes nothing. -/
noncomputable def perform (p : PlainMap V) : MapCall V α → α × PlainMap V
  | .put k v => ((), Function.update p k (some v))
  | .get k => (p k, p)
  | .peek k => (p k, p)
  | .contains k => ((p k).isSome, p)
  | .remove k => (p k, Function.update p k none)
  | .submit k f =>
    match f (p k) with
    | .error text => (.error text, p)
    | .ok (out, left) => (.ok out, Function.update p k left)
  | .clear => ((), empty)
  | .size => (p.count, p)

noncomputable def step (p : PlainMap V) : HostStep V → List Reply × PlainMap V
  | .call c => ([⟨_, (p.perform c).1⟩], (p.perform c).2)
  | .wait _ => ([], p)
  | .drop _ => ([], p)

noncomputable def run (p : PlainMap V) : List (HostStep V) → List Reply × PlainMap V
  | [] => ([], p)
  | s :: rest => ((p.step s).1 ++ ((p.step s).2.run rest).1, ((p.step s).2.run rest).2)

def Within (n : Nat) (p : PlainMap V) (steps : List (HostStep V)) : Prop :=
  ∀ done, done <+: steps → (p.run done).2.count ≤ n

/-- The replies of a map that is empty each time it is called. -/
noncomputable def emptyReplies (steps : List (HostStep V)) : List Reply :=
  steps.flatMap fun s => (empty.step s).1

variable {n : Nat} {p : PlainMap V} {s : HostStep V} {rest : List (HostStep V)}

theorem Within.count_le (h : p.Within n rest) : p.count ≤ n :=
  h [] List.nil_prefix

theorem Within.tail (h : p.Within n (s :: rest)) : (p.step s).2.Within n rest :=
  fun done hd => h (s :: done) (List.cons_prefix_cons.2 ⟨rfl, hd⟩)

theorem step_empty_cases (s : HostStep V) :
    ((empty : PlainMap V).step s).2 = empty ∨
      ∃ k v, (empty.step s).2 = Function.update (empty : PlainMap V) k (some v) := by
  cases s with
  | wait | drop => exact .inl rfl
  | call c =>
    cases c with
    | put k v => exact .inr ⟨k, v, rfl⟩
    | get | peek | contains | clear | size => exact .inl rfl
    | remove k => exact .inl (Function.update_eq_self k (empty : PlainMap V))
    | submit k f =>
      simp only [step, perform]
      split
      · exact .inl rfl
      · rename_i left _
        cases left with
        | none => exact .inl (Function.update_eq_self k (empty : PlainMap V))
        | some v => exact .inr ⟨k, v, rfl⟩

theorem count_single (k : Key) (v : V) :
    count (Function.update (empty : PlainMap V) k (some v)) = 1 := by
  have hset : {l | (Function.update (empty : PlainMap V) k (some v) l).isSome} = {k} := by
    ext l
    by_cases hl : l = k <;> simp [hl, empty]
  rw [count, hset, Set.ncard_singleton]

theorem replies_of_within_zero {steps : List (HostStep V)}
    (h : (empty : PlainMap V).Within 0 steps) :
    ((empty : PlainMap V).run steps).1 = emptyReplies steps := by
  induction steps with
  | nil => rfl
  | cons s rest ih =>
    have tail := h.tail
    have stays : ((empty : PlainMap V).step s).2 = empty := by
      rcases step_empty_cases s with heq | ⟨k, v, heq⟩
      · exact heq
      · have hcount := tail.count_le
        rw [heq, count_single] at hcount
        omega
    rw [stays] at tail
    simp only [run, stays, ih tail, emptyReplies, List.flatMap_cons]

end PlainMap

/-! ### Hosts -/

def MapCall.readKey? : MapCall V α → Option Key
  | .get k => some k
  | .peek k => some k
  | _ => none

def MapCall.writtenKey? (m : EntryMap V) : MapCall V α → Option Key
  | .put k _ => some k
  | .submit k p =>
    match p (m.get? k) with
    | .ok (_, some _) => some k
    | _ => none
  | _ => none

/-- A map with its host's clock, and when each entry was last written and last used. -/
structure HostedMap (V : Type) where
  map : EntryMap V
  now : Nanos
  written : Key → Nanos
  used : Key → Nanos

namespace HostedMap

def start (m : EntryMap V) : HostedMap V :=
  ⟨m, 0, fun _ => 0, fun _ => 0⟩

def mark (times : Key → Nanos) (now : Nanos) : Option Key → Key → Nanos
  | some k => Function.update times k now
  | none => times

def serve (h : HostedMap V) (c : MapCall V α) : α × HostedMap V :=
  let (reply, map) := h.map.perform c
  let key? := c.writtenKey? h.map
  (reply, ⟨map, h.now, mark h.written h.now key?, mark h.used h.now (key?.or c.readKey?)⟩)

def step (h : HostedMap V) : HostStep V → List Reply × HostedMap V
  | .call c => ([⟨_, (h.serve c).1⟩], (h.serve c).2)
  | .wait d => ([], { h with now := h.now + d })
  | .drop k => ([], { h with map := h.map.lose k })

def run (h : HostedMap V) : List (HostStep V) → List Reply × HostedMap V
  | [] => ([], h)
  | s :: rest => ((h.step s).1 ++ ((h.step s).2.run rest).1, ((h.step s).2.run rest).2)

def Aged (h : HostedMap V) (k : Key) : Prop :=
  (∃ t, h.map.policy.ttl = some t ∧ h.written k + t ≤ h.now) ∨
    ∃ t, h.map.policy.tti = some t ∧ h.used k + t ≤ h.now

def Crowded (h : HostedMap V) : Prop :=
  ∃ n, h.map.policy.enforcedCapacity = some n ∧ n < h.map.size

/-- The host takes entries out for a reason only. -/
def Justified (h : HostedMap V) (steps : List (HostStep V)) : Prop :=
  ∀ done k, done ++ [.drop k] <+: steps → (h.run done).2.Crowded ∨ (h.run done).2.Aged k

def StaysYoung (h : HostedMap V) (steps : List (HostStep V)) : Prop :=
  ∀ done, done <+: steps → ∀ k, (h.run done).2.map.contains k = true → ¬ (h.run done).2.Aged k

variable {h : HostedMap V} {p : PlainMap V} {s : HostStep V} {steps rest : List (HostStep V)}

theorem Justified.tail (hj : h.Justified (s :: rest)) : (h.step s).2.Justified rest :=
  fun done k hd => hj (s :: done) k (List.cons_prefix_cons.2 ⟨rfl, hd⟩)

theorem StaysYoung.tail (hy : h.StaysYoung (s :: rest)) : (h.step s).2.StaysYoung rest :=
  fun done hd => hy (s :: done) (List.cons_prefix_cons.2 ⟨rfl, hd⟩)

theorem policy_step (h : HostedMap V) (s : HostStep V) :
    (h.step s).2.map.policy = h.map.policy := by
  cases s with
  | call c => exact h.map.policy_perform c
  | wait | drop => rfl

theorem policy_run (h : HostedMap V) (steps : List (HostStep V)) :
    (h.run steps).2.map.policy = h.map.policy := by
  induction steps generalizing h with
  | nil => rfl
  | cons s rest ih => exact (ih (h.step s).2).trans (h.policy_step s)

def waited (steps : List (HostStep V)) : Nanos :=
  (steps.map HostStep.time).sum

theorem now_run (h : HostedMap V) (steps : List (HostStep V)) :
    (h.run steps).2.now = h.now + waited steps := by
  induction steps generalizing h with
  | nil => rfl
  | cons s rest ih =>
    have step : (h.step s).2.now = h.now + s.time := by cases s <;> rfl
    rw [run, ih, step, waited, waited, List.map_cons, List.sum_cons, Nat.add_assoc]

theorem staysYoung_of_waited
    (short : ∀ t, h.map.policy.ttl = some t ∨ h.map.policy.tti = some t →
      h.now + waited steps < t) :
    h.StaysYoung steps := by
  rintro done ⟨rest, rfl⟩ k -
  have hlt {t : Nanos} (ht : h.map.policy.ttl = some t ∨ h.map.policy.tti = some t) :
      h.now + waited done < t := by
    refine Nat.lt_of_le_of_lt ?_ (short t ht)
    simp only [waited, List.map_append, List.sum_append]
    exact Nat.add_le_add_left (Nat.le_add_right ..) h.now
  simp only [Aged, policy_run, now_run]
  rintro (⟨t, ht, hle⟩ | ⟨t, ht, hle⟩)
  · exact Nat.not_le.2 (hlt (.inl ht)) (Nat.le_trans (Nat.le_add_left ..) hle)
  · exact Nat.not_le.2 (hlt (.inr ht)) (Nat.le_trans (Nat.le_add_left ..) hle)

end HostedMap

/-! ### Maps that retain what is put into them -/

def EntryMap.Shows (m : EntryMap V) (p : PlainMap V) : Prop :=
  ∀ k, m.get? k = p k

namespace EntryMap

variable {m : EntryMap V} {p : PlainMap V}

theorem size_eq_ncard (m : EntryMap V) : m.size = Set.ncard {k | (m.get? k).isSome} := by
  have hkeys : {k | (m.get? k).isSome} = ↑m.entries.keys.toFinset := by
    ext k
    simp only [Set.mem_ofPred_eq, Finset.mem_coe, List.mem_toFinset, Option.isSome_iff_exists,
      Table.keys, List.mem_map, Prod.exists, exists_and_right, exists_eq_right, get?,
      Table.mem_entries_iff]
  have nodup : m.entries.keys.Nodup := m.entries.nodup
  rw [hkeys, Set.ncard_coe_finset, List.toFinset_card_of_nodup nodup, Table.keys, List.length_map]
  rfl

theorem Shows.size_eq (h : m.Shows p) : m.size = p.count := by
  simp only [m.size_eq_ncard, PlainMap.count, h _]

theorem Shows.update {m' : EntryMap V} {k : Key} {o : Option V} (h : m.Shows p)
    (hm : ∀ l, m'.get? l = if k = l then o else m.get? l) :
    m'.Shows (Function.update p k o) := by
  intro l
  rw [hm, Function.update_apply, h l]
  simp only [eq_comm]

/-- A call on a map that retains its entries is answered and carried out as on a plain map. -/
theorem Shows.perform (h : m.Shows p) (hr : m.policy.retains = true) (c : MapCall V α) :
    (m.perform c).1 = (p.perform c).1 ∧ (m.perform c).2.Shows (p.perform c).2 := by
  cases c with
  | put k v => exact ⟨rfl, h.update fun l => get?_put hr k l v⟩
  | get k => exact ⟨h k, h⟩
  | peek k => exact ⟨h k, h⟩
  | contains k => exact ⟨congrArg Option.isSome (h k), h⟩
  | remove k => exact ⟨h k, h.update fun l => m.get?_lose k l⟩
  | clear => exact ⟨rfl, fun _ => rfl⟩
  | size => exact ⟨h.size_eq, h⟩
  | submit k f =>
    obtain ⟨text, hf, hs⟩ | ⟨out, left, hf, hs⟩ := m.submit_cases k f
    · rw [h k] at hf
      simp only [EntryMap.perform, hs, PlainMap.perform, hf]
      exact ⟨trivial, h⟩
    · rw [h k] at hf
      simp only [EntryMap.perform, hs, PlainMap.perform, hf]
      exact ⟨trivial, h.update fun l => get?_settle hr k l left⟩

theorem perform_of_vacant (hv : m.Vacant) (hr : m.policy.retains = false) (c : MapCall V α) :
    (m.perform c).1 = ((PlainMap.empty : PlainMap V).perform c).1 := by
  have shows : m.Shows PlainMap.empty := hv hr
  cases c with
  | put | clear => rfl
  | get k => exact shows k
  | peek k => exact shows k
  | contains k => exact congrArg Option.isSome (shows k)
  | remove k => exact shows k
  | size => exact shows.size_eq
  | submit k f =>
    have hk : m.get? k = none := shows k
    obtain ⟨text, hf, hs⟩ | ⟨out, left, hf, hs⟩ := m.submit_cases k f
    · rw [hk] at hf
      simp only [EntryMap.perform, hs, PlainMap.perform, PlainMap.empty, hf]
    · rw [hk] at hf
      simp only [EntryMap.perform, hs, PlainMap.perform, PlainMap.empty, hf]

end EntryMap

namespace HostedMap

variable {h : HostedMap V} {p : PlainMap V} {s : HostStep V} {steps rest : List (HostStep V)}

theorem shows_lose (shows : h.map.Shows p) {k : Key} (reason : h.Crowded ∨ h.Aged k)
    (roomy : ∀ n, h.map.policy.enforcedCapacity = some n → p.count ≤ n)
    (young : h.map.contains k = true → ¬ h.Aged k) : (h.map.lose k).Shows p := by
  have absent : h.map.get? k = none := by
    rcases reason with ⟨n, hn, hlt⟩ | aged
    · have := roomy n hn
      rw [shows.size_eq] at hlt
      omega
    · by_contra hne
      exact young (Option.isSome_iff_ne_none.2 hne) aged
  intro l
  rw [EntryMap.get?_lose]
  split
  · rw [← ‹k = l›, ← shows k, absent]
  · exact shows l

theorem replies_of_retains (shows : h.map.Shows p) (hr : h.map.policy.retains = true)
    (justified : h.Justified steps) (young : h.StaysYoung steps)
    (within : ∀ n, h.map.policy.enforcedCapacity = some n → p.Within n steps) :
    (h.run steps).1 = (p.run steps).1 := by
  induction steps generalizing h p with
  | nil => rfl
  | cons s rest ih =>
    have hp := h.policy_step s
    have step : (h.step s).1 = (p.step s).1 ∧ (h.step s).2.map.Shows (p.step s).2 := by
      cases s with
      | wait d => exact ⟨rfl, shows⟩
      | call c =>
        obtain ⟨hreply, hshows⟩ := shows.perform hr c
        refine ⟨?_, hshows⟩
        simp only [HostedMap.step, serve, PlainMap.step, hreply]
      | drop k =>
        refine ⟨rfl, shows_lose shows (justified [] k ?_) (fun n hn => (within n hn).count_le)
          (young [] List.nil_prefix k)⟩
        simp
    have tail := ih step.2 (by rwa [hp]) justified.tail young.tail fun n hn =>
      (within n (hp ▸ hn)).tail
    rw [run, PlainMap.run, step.1, tail]

theorem replies_of_not_retains (hv : h.map.Vacant) (hr : h.map.policy.retains = false) :
    (h.run steps).1 = PlainMap.emptyReplies steps := by
  induction steps generalizing h with
  | nil => rfl
  | cons s rest ih =>
    have step : (h.step s).1 = ((PlainMap.empty : PlainMap V).step s).1 ∧
        (h.step s).2.map.Vacant := by
      cases s with
      | wait d => exact ⟨rfl, hv⟩
      | drop k => exact ⟨rfl, hv.lose k⟩
      | call c =>
        refine ⟨?_, hv.perform c⟩
        simp only [HostedMap.step, serve, PlainMap.step, EntryMap.perform_of_vacant hv hr c]
    rw [run, ih step.2 (by rwa [h.policy_step s]), step.1, PlainMap.emptyReplies,
      PlainMap.emptyReplies, List.flatMap_cons]

/-- Replies are those of a plain map if the host never has a reason to take an entry out. A
capacity is no such reason under a policy that never evicts. If the capacity or the time of an
entry is nothing, replies are those of a map that is always empty. -/
theorem replies_eq_plain {name : String} {policy : MapPolicy} {m : EntryMap V}
    (created : EntryMap.create name policy = .ok m) (justified : (start m).Justified steps) :
    (policy.ttl ≠ some 0 → policy.tti ≠ some 0 → (start m).StaysYoung steps →
      (∀ n, policy.enforcedCapacity = some n → (PlainMap.empty : PlainMap V).Within n steps) ∨
          policy.eviction = .never →
        ((start m).run steps).1 = ((PlainMap.empty : PlainMap V).run steps).1) ∧
    (policy.enforcedCapacity = some 0 ∨ policy.ttl = some 0 ∨ policy.tti = some 0 →
      ((start m).run steps).1 = PlainMap.emptyReplies steps) := by
  have vacant : (start m).map.Vacant := EntryMap.vacant_of_create created
  obtain rfl := EntryMap.eq_of_create created
  refine ⟨fun httl htti young room => ?_, fun hzero => ?_⟩
  · have within : ∀ n, policy.enforcedCapacity = some n →
        (PlainMap.empty : PlainMap V).Within n steps := by
      rcases room with within | never
      · exact within
      · intro n hn
        simp [MapPolicy.enforcedCapacity, never] at hn
    cases hr : policy.retains with
    | true => exact replies_of_retains (fun _ => rfl) hr justified young within
    | false =>
      have hcap : policy.enforcedCapacity = some 0 := by
        simpa [MapPolicy.retains, httl, htti] using hr
      rw [replies_of_not_retains vacant hr, PlainMap.replies_of_within_zero (within 0 hcap)]
  · refine replies_of_not_retains vacant ?_
    rcases hzero with h | h | h <;> simp [start, MapPolicy.retains, h]

end HostedMap

namespace HostedMap.Counter

def policy : MapPolicy :=
  ⟨some 0, some 10, none, .never, .object⟩

def counters : EntryMap Nat :=
  ⟨"counters", policy, ∅⟩

def increment : Processor Nat (Option Nat) :=
  .update fun entry => entry.getD 0 + 1

def bug : Processor Nat Unit :=
  .crash "bug"

def steps : List (HostStep Nat) :=
  [.call (.put ⟨7⟩ 1), .wait 5, .call (.submit ⟨7⟩ increment), .call (.submit ⟨7⟩ bug), .wait 4,
    .call (.get ⟨7⟩)]

def replies : List Reply :=
  [⟨Unit, ()⟩, ⟨Except String (Option Nat), .ok (some 1)⟩, ⟨Except String Unit, .error "bug"⟩,
    ⟨Option Nat, some 2⟩]

theorem shows_count :
    EntryMap.create "counters" policy = .ok counters ∧ (start counters).Justified steps ∧
      (start counters).StaysYoung steps ∧ policy.eviction = .never ∧
      ((start counters).run steps).1 = replies ∧
      ((PlainMap.empty : PlainMap Nat).run steps).1 = replies := by
  have served : ((start counters).run steps).1 = replies := rfl
  have created : EntryMap.create "counters" policy = .ok counters := rfl
  have justified : (start counters).Justified steps := by
    intro done k hd
    have hmem : HostStep.drop k ∈ steps := hd.subset (by simp)
    simp [steps] at hmem
  have young : (start counters).StaysYoung steps := by
    refine staysYoung_of_waited fun t ht => ?_
    obtain rfl : t = 10 := by simpa [start, counters, policy, eq_comm] using ht
    decide
  obtain ⟨plain, -⟩ := replies_eq_plain created justified
  exact ⟨created, justified, young, rfl, served,
    (plain (by decide) (by decide) young (.inr rfl)).symm.trans served⟩

end HostedMap.Counter

end CacheAside
