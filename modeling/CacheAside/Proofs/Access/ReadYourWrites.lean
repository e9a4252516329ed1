import CacheAside.Proofs.Access.StoreCalls
import CacheAside.Proofs.Map.Calls
/-!
Finds and saves of any clients in any order of their calls, over a map that keeps its entries.
Once the grid has taken a save, the entry is that of the last save taken. Refills come too late to
change it, and finds that read the grid from then on have their answer from there.
-/

set_option autoImplicit false

namespace CacheAside

variable {E Out L : Type}

/-- No bound on the number of entries or on their life. -/
structure MapPolicy.Keeps (p : MapPolicy) : Prop where
  capacity : p.enforcedCapacity = none
  ttl : p.ttl = none
  tti : p.tti = none

theorem MapPolicy.Keeps.retains {p : MapPolicy} (h : p.Keeps) : p.retains = true := by
  simp [MapPolicy.retains, h.capacity, h.ttl, h.tti]

/-- Clients find and save only. The grid serves every call and keeps its entries; the store and
the listeners may do anything. -/
def shared : Climate E Out where
  asks
    | .find _ | .save _ => True
    | _ => False
  meets
    | .readGrid .., c | .refill .., c | .saveGrid .., c => c = .serve
    | _, _ => True
  loses := False

namespace Work

def OfFindOrSave : Work E Out → Prop
  | .readGrid .. | .readStore .. | .refill .. | .saveGrid .. | .saveStore .. | .notify .. => True
  | _ => False

def saved? (k : Key) : Work E Out → Option E
  | .saveGrid l e => if l = k then some e else none
  | _ => none

end Work

/-- The entity of the save whose grid call came last among those for a key. -/
def lastSaved (k : Key) (h : List (Called E Out)) : Option E :=
  (h.filterMap fun x => x.work.saved? k).getLast?

theorem lastSaved_append_singleton (k : Key) (h : List (Called E Out)) (x : Called E Out) :
    lastSaved k (h ++ [x]) = (x.work.saved? k).or (lastSaved k h) := by
  simp only [lastSaved, List.filterMap_append, List.getLast?_append]
  cases hx : x.work.saved? k <;> simp [hx]

section Moves

variable [Entity E]

theorem opening_ofFindOrSave {r : Request E Out} {w : Work E Out} (hr : shared.asks r)
    (h : r.opening = .ok w) : w.OfFindOrSave := by
  cases r with
  | find parts =>
    simp only [Request.opening] at h
    cases hk : Key.derive parts <;> rw [hk] at h <;> cases h
    trivial
  | save e =>
    simp only [Request.opening] at h
    cases hk : Entity.key e <;> rw [hk] at h <;> cases h
    trivial
  | remove | execute | refill | load => exact hr.elim

namespace Work

variable {number : Nat} {listening : Bool} {map : EntryMap E} {store : RowStore E}
  {c : Conduct E} {v w : Work E Out}

omit [Entity E] in
theorem LeadsTo.ofFindOrSave (hv : v.OfFindOrSave) (h : v.LeadsTo w) : w.OfFindOrSave := by
  cases h with
  | find k parts => trivial
  | save k e => trivial
  | remove | scan | feed => exact hv.elim

omit [Entity E] in
theorem IsNotice.ofFindOrSave (h : w.IsNotice) : w.OfFindOrSave := by
  cases w <;> trivial

theorem afterStoreRead_side (k : Key) (r : Except Fault (Option E) × RowStore E) :
    (afterStoreRead map k r : Move E Out).map = map ∧
      ∀ w ∈ (afterStoreRead map k r : Move E Out).spawned, w.OfFindOrSave := by
  obtain ⟨_ | _ | e, store⟩ := r <;> simp [afterStoreRead, OfFindOrSave]

theorem advance_readStore_side (k : Key) (parts : List KeyPart) :
    let m := (readStore k parts : Work E Out).advance number listening map store c
    m.map = map ∧ ∀ w ∈ m.spawned, w.OfFindOrSave := by
  cases c with
  | fail | crash => exact ⟨rfl, fun w hw => (nomatch hw)⟩
  | serve | refuse | answer => exact afterStoreRead_side k _

omit [Entity E] in
theorem afterStoreWrite_side (event : EntryEvent) (signal : Signal) (e : E)
    (r : Except Fault Bool × RowStore E) :
    let m : Move E Out := afterStoreWrite map number listening event signal e r
    m.map = map ∧ ∀ w ∈ m.spawned, w.OfFindOrSave := by
  have hnotice : ∀ w ∈ (afterStoreWrite map number listening event signal e r : Move E Out).spawned,
      w.IsNotice := spawned_afterStoreWrite number listening map event signal r
  refine ⟨?_, fun w hw => (hnotice w hw).ofFindOrSave⟩
  obtain ⟨_ | _, store⟩ := r <;> rfl

theorem advance_saveStore_side (k : Key) (e : E) :
    let m := (saveStore k e : Work E Out).advance number listening map store c
    m.map = map ∧ ∀ w ∈ m.spawned, w.OfFindOrSave := by
  cases c with
  | fail | crash => exact ⟨rfl, fun w hw => (nomatch hw)⟩
  | serve | refuse | answer => exact afterStoreWrite_side .saved .save e _

/-- The entry after a call is what a save leaves with it, else the entry that was there. -/
theorem advance_ofFindOrSave (number : Nat) (listening : Bool) (store : RowStore E)
    (hv : v.OfFindOrSave) (hc : shared.meets v c) (hr : map.policy.retains = true) :
    let m := v.advance number listening map store c
    m.map.policy = map.policy ∧ (∀ w ∈ m.spawned, w.OfFindOrSave) ∧
      ∀ k e, (v.saved? k).or (map.get? k) = some e → m.map.get? k = some e := by
  have keep : ∀ m : Move E Out, m.map = map → (∀ w ∈ m.spawned, w.OfFindOrSave) →
      (∀ k, v.saved? k = none) → m.map.policy = map.policy ∧
        (∀ w ∈ m.spawned, w.OfFindOrSave) ∧
          ∀ k e, (v.saved? k).or (map.get? k) = some e → m.map.get? k = some e := by
    intro m hm hsp hnone
    refine ⟨by rw [hm], hsp, fun k e he => ?_⟩
    rwa [hm, ← Option.none_or (o := map.get? k), ← hnone k]
  cases v with
  | readGrid k parts =>
    rcases advance_readGrid number listening map store (c := c) (k := k) (by rw [hc]; trivial) parts
      with ⟨e, -, hm⟩ | hm
    · exact keep _ (by rw [hm]) (by simp [hm]) fun _ => rfl
    · exact keep _ (by rw [hm]) (by simp [hm]) fun _ => rfl
  | readStore k parts =>
    obtain ⟨hmap, hsp⟩ := advance_readStore_side (c := c) k parts
    exact keep _ hmap hsp fun _ => rfl
  | saveStore k e =>
    obtain ⟨hmap, hsp⟩ := advance_saveStore_side (c := c) k e
    exact keep _ hmap hsp fun _ => rfl
  | notify origin event e => exact keep _ rfl (fun w hw => (nomatch hw)) fun _ => rfl
  | refill l f =>
    cases hc
    refine ⟨EntryMap.policy_submit map l _, fun w hw => (nomatch hw), fun k e he => ?_⟩
    have hget : map.get? k = some e := he
    have hm := EntryMap.get?_insertIfAbsent hr l k f
    by_cases hl : l = k
    · subst hl
      rw [if_pos rfl, hget] at hm
      exact hm
    · rw [if_neg hl, hget] at hm
      exact hm
  | saveGrid l f =>
    cases hc
    refine ⟨EntryMap.policy_submit map l _, fun w hw => (nomatch hw), fun k e he => ?_⟩
    have hm : (map.put l f).get? k = if l = k then some f else map.get? k := map.get?_put hr l k f
    by_cases hl : l = k
    · rw [if_pos hl] at hm
      simp only [saved?, hl, if_true, Option.some_or] at he
      exact hm.trans he
    · rw [if_neg hl] at hm
      simp only [saved?, hl, if_false, Option.none_or] at he
      exact hm.trans he
  | removeGrid | removeStore | execute | scan | feed => exact hv.elim

end Work

end Moves

/-- What holds after any calls of finds and saves: under each key that a save was made to, the
grid has what the last of them left. -/
structure Upheld [Entity E] (s : Tiers E Out L) (h : List (Called E Out)) : Prop where
  retains : s.map.policy.retains = true
  due : ∀ i w, s.Due i w → w.OfFindOrSave
  held : ∀ k e, lastSaved k h = some e → s.map.get? k = some e

section Runs

variable [Entity E] {s : Tiers E Out L}

theorem Upheld.step (s : Tiers E Out L) (h : List (Called E Out)) (e : Event E Out L)
    (hs : Upheld s h) (hp : s.Permits shared e) : Upheld (s.step e) (h ++ s.made e) := by
  cases e with
  | lose k => exact hp.elim
  | ask client r =>
    rw [Tiers.made, List.append_nil]
    refine ⟨?_, fun i w hw => ?_, fun k e he => ?_⟩
    · rw [Tiers.step, Tiers.ask_map]
      exact hs.retains
    · rcases (Tiers.due_ask ..).1 hw with hd | ⟨-, ho⟩
      · exact hs.due i w hd
      · exact opening_ofFindOrSave hp ho
    · rw [Tiers.step, Tiers.ask_map]
      exact hs.held k e he
  | call i c =>
    rcases s.call_cases i c with ⟨hno, hcall⟩ | ⟨client, v, hv, hcall⟩
    · rw [Tiers.made_of_not_due hno, List.append_nil, Tiers.step, hcall]
      exact hs
    · obtain ⟨hpolicy, hsp, hmap⟩ :=
        Work.advance_ofFindOrSave i client.listener.isSome s.store (hs.due i v hv) (hp v hv)
          hs.retains
      rw [Tiers.made_of_due hv, Tiers.step, hcall]
      refine ⟨hpolicy ▸ hs.retains, ?_, fun k e he => hmap k e ?_⟩
      · refine Tiers.due_of_apply hs.due hv.lt (fun w hw => ?_) hsp
        exact (Work.leadsTo_of_advance hw).ofFindOrSave (hs.due i v hv)
      · rw [lastSaved_append_singleton] at he
        cases hsaved : v.saved? k with
        | some f => simpa [hsaved] using he
        | none =>
          simp only [hsaved, Option.none_or] at he ⊢
          exact hs.held k e he

theorem Upheld.start (hs : s.tasks = []) (hmap : s.map.policy.Keeps) : Upheld s [] :=
  ⟨hmap.retains, fun i w hw => absurd hw (Tiers.not_due_of_tasks_nil hs i w),
    fun _ _ h => (nomatch h)⟩

omit [Entity E] in
theorem Tiers.Fresh.start (hs : s.tasks = []) : s.Fresh [] :=
  ⟨fun _ h => (nomatch h), fun i w hw => absurd hw (not_due_of_tasks_nil hs i w)⟩

theorem Work.advance_readGrid_hit (number : Nat) (listening : Bool) {map : EntryMap E}
    (store : RowStore E) {k : Key} {e : E} (h : map.get? k = some e) (parts : List KeyPart) :
    (readGrid k parts : Work E Out).advance number listening map store .serve =
      ⟨map, store, .done (.ok (.entity (some e))), [.gridGet, .hit, .find], [], none⟩ := by
  simp [advance, readAnswer, h]

namespace Tiers

variable {i : Nat} {k : Key} {e : E}

theorem result?_call_readGrid {parts : List KeyPart} (hi : s.Due i (.readGrid k parts))
    (h : s.map.get? k = some e) :
    (s.call i .serve).result? i = some (.ok (.entity (some e))) := by
  rcases s.call_cases i .serve with ⟨hno, -⟩ | ⟨client, w, hw, hcall⟩
  · exact absurd hi (hno _)
  · obtain rfl := hw.unique hi
    rw [hcall, Work.advance_readGrid_hit i _ s.store h parts, result?_apply hi.lt, if_pos rfl]
    rfl

theorem get?_call_refill {l : Key} {f : E} (hr : s.map.policy.retains = true)
    (hi : s.Due i (.refill l f)) (h : s.map.get? k = some e) (c : Conduct E) :
    (s.call i c).map.get? k = some e := by
  rcases s.call_cases i c with ⟨hno, -⟩ | ⟨client, w, hw, hcall⟩
  · exact absurd hi (hno _)
  · obtain rfl := hw.unique hi
    obtain ⟨hmap, -⟩ :=
      Work.advance_refill i client.listener.isSome s.map s.store (c := c) (k := l) (e := f)
    rw [hcall, apply_map]
    rcases hmap with hmap | hmap
    · rw [hmap, h]
    · rw [hmap, EntryMap.get?_insertIfAbsent hr]
      by_cases hl : l = k
      · simp [hl, h]
      · simp [hl, h]

/-- Once the grid has taken a save, the entry is that of the last save taken; no refill changes
it, and a find that reads the grid then ends with it, having made no other call and left the store
as it is. -/
theorem reads_last_save {s₀ : Tiers E Out L} (idle : s₀.tasks = []) (keeps : s₀.map.policy.Keeps)
    {before : List (Event E Out L)} (permitted : s₀.PermitsAll shared before)
    (saved : lastSaved k (s₀.calls before) = some e) :
    let s := s₀.run before
    s.map.get? k = some e ∧
      (∀ i l f c, s.Due i (.refill l f) → (s.call i c).map.get? k = some e) ∧
        ∀ i parts, s.Due i (.readGrid k parts) → (s.call i .serve).store = s.store ∧
          ∀ after : List (Event E Out L),
            ((s.call i .serve).run after).result? i = some (.ok (.entity (some e))) ∧
              (s₀.calls (before ++ .call i .serve :: after)).filter (·.task = i) =
                [⟨i, .readGrid k parts, .serve⟩] := by
  intro s
  have upheld : Upheld s (s₀.calls before) :=
    run_calls_of_step Upheld.step (Upheld.start idle keeps) permitted
  have hget : s.map.get? k = some e := upheld.held k e saved
  refine ⟨hget, fun i l f c hi => get?_call_refill upheld.retains hi hget c, ?_⟩
  intro i parts hi
  refine ⟨store_call_of_not_isStore hi rfl .serve, fun after => ?_⟩
  have hresult := result?_call_readGrid hi hget
  refine ⟨result?_run after hresult, ?_⟩
  have hbefore : (s₀.calls before).filter (·.task = i) = [] := by
    have fresh : s.Fresh (s₀.calls before) := (Fresh.start idle).run before
    refine List.filter_eq_nil_iff.2 fun x hx => ?_
    have hgo : ¬ (Work.readGrid k parts : Work E Out).GoesOn := fun ⟨v, hv⟩ => (nomatch hv)
    simpa using fresh.unmade i _ hi hgo x hx
  have hafter : ((s.call i .serve).calls after).filter (·.task = i) = [] := by
    refine List.filter_eq_nil_iff.2 fun x hx => ?_
    simpa using task_ne_of_result? hresult after x hx
  have hcalls : s₀.calls (before ++ .call i .serve :: after) =
      s₀.calls before ++ ([⟨i, .readGrid k parts, .serve⟩] ++ (s.call i .serve).calls after) := by
    rw [calls_append, ← made_of_due hi]
    rfl
  rw [hcalls, List.filter_append, List.filter_append, hbefore, hafter]
  simp

end Tiers

end Runs

namespace LateRefill

open Item

def idle : Tiers Item Unit Unit :=
  Tiers.create ⟨"items", .bulk, ∅⟩ .empty

def events : List (Event Item Unit Unit) :=
  [.ask .first (.find [.int 7]), .call 0 .serve, .call 0 (.answer (some (stampedSample "old"))),
    .ask .second (.save (stampedSample "new")), .call 2 .serve, .ask .first (.find [.int 7])]

open Tiers in
theorem permitted : idle.PermitsAll shared events :=
  ⟨trivial, permits_call ⟨_, rfl⟩ rfl, permits_call ⟨_, rfl⟩ trivial, trivial,
    permits_call ⟨_, rfl⟩ rfl, trivial, trivial⟩

theorem reads_new :
    lastSaved sampleKey (idle.calls events) = some (stampedSample "new") ∧
      ((idle.run events).call 1 .serve).map.get? sampleKey = some (stampedSample "new") ∧
      ((((idle.run events).call 3 .serve).run
        [.call 1 .serve, .call 2 (.fail (.ofText "down"))]).result? 3) =
          some (.ok (.entity (some (stampedSample "new")))) := by
  have saved : lastSaved sampleKey (idle.calls events) = some (stampedSample "new") := rfl
  obtain ⟨-, refill, find⟩ := Tiers.reads_last_save rfl ⟨rfl, rfl, rfl⟩ permitted saved
  exact ⟨saved, refill 1 _ _ .serve ⟨_, rfl⟩, ((find 3 _ ⟨_, rfl⟩).2 _).1⟩

end LateRefill

end CacheAside
