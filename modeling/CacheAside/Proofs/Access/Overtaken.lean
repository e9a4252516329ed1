import CacheAside.Proofs.Access.Ledger
import CacheAside.Proofs.Access.Removal
import CacheAside.Proofs.Store.Keyed
/-!
A save among loads. A load reads its rows first and puts them one by one, over whatever is there by
then. So an entry that was saved is overtaken when the load that puts its row last has read it
before the store had the save; the grid then shows the row from before, and the store the new one.
Otherwise both have what was saved.
-/

set_option autoImplicit false

namespace CacheAside

variable {E Out L : Type} [Entity E]

/-- Clients load, and save entities under other keys; every call is served, and the grid keeps its
entries. -/
def warming (k : Key) : Climate E Out where
  asks
    | .load _ => True
    | .save e => Entity.key e ≠ .ok k
    | _ => False
  meets _ c := c = .serve
  loses := False

/-! ### The race for an entry -/

/-- What an observer of the calls knows of the race between a save and the loads: which loads have
read their rows without the save, whether the store has it, and whether one of these loads was the
last to put its row under the key. -/
structure Race where
  early : List Nat
  stored : Bool
  overtaken : Bool

namespace Race

def see (k : Key) (n : Nat) (r : Race) : Called E Out → Race
  | ⟨i, .scan _, _⟩ => if r.stored then r else { r with early := i :: r.early }
  | ⟨i, .feed _ (row :: _) _, _⟩ =>
    match Entity.key row with
    | .ok l => if l = k then { r with overtaken := decide (i ∈ r.early) } else r
    | .error _ => r
  | ⟨i, .saveGrid .., _⟩ => if i = n then { r with overtaken := false } else r
  | ⟨i, .saveStore .., _⟩ => if i = n then { r with stored := true } else r
  | _ => r

def start : Race :=
  ⟨[], false, false⟩

end Race

def race (k : Key) (n : Nat) (h : List (Called E Out)) : Race :=
  h.foldl (Race.see k n) .start

theorem race_concat (k : Key) (n : Nat) (h : List (Called E Out)) (x : Called E Out) :
    race k n (h ++ [x]) = (race k n h).see k n x := by
  rw [race, race, List.foldl_append, List.foldl_cons, List.foldl_nil]

/-! ### Work besides the save -/

/-- What task `i` may have to do besides the save of `x` under `k`, where the store had `old`. A
load has `old` at hand if it is early, and `x` if it is not. -/
inductive Work.OfWarming (k : Key) (x : E) (old : Option E) (early : List Nat) (i : Nat) :
    Work E Out → Prop
  | notice {w : Work E Out} (h : w.IsNotice) : OfWarming k x old early i w
  | scan (span : Span) (h : i ∉ early) : OfWarming k x old early i (.scan span)
  | feed (span : Span) (rest : List E) (count : Nat)
    (h : ∀ row ∈ rest, ∃ l, Entity.key row = .ok l ∧
      (l = k → if i ∈ early then old = some row else row = x)) :
    OfWarming k x old early i (.feed span rest count)
  | saveGrid {l : Key} {e : E} (hl : l ≠ k) (he : Entity.key e = .ok l) :
    OfWarming k x old early i (.saveGrid l e)
  | saveStore {l : Key} {e : E} (hl : l ≠ k) (he : Entity.key e = .ok l) :
    OfWarming k x old early i (.saveStore l e)

theorem Work.OfWarming.congr {k : Key} {x : E} {old : Option E} {early early' : List Nat} {i : Nat}
    {w : Work E Out} (h : w.OfWarming k x old early i) (hi : i ∈ early' ↔ i ∈ early) :
    w.OfWarming k x old early' i := by
  cases h with
  | notice h => exact .notice h
  | scan span h => exact .scan span (mt hi.1 h)
  | feed span rest count h =>
    refine .feed span rest count fun row hrow => ?_
    simpa only [hi] using h row hrow
  | saveGrid hl he => exact .saveGrid hl he
  | saveStore hl he => exact .saveStore hl he

structure Warming (k : Key) (x : E) (old : Option E) (n : Nat) (s : Tiers E Out L) (r : Race) :
    Prop where
  retains : s.map.policy.retains = true
  keyed : s.store.Keyed
  row : s.store.rows.get? k = if r.stored then some x else old
  due : ∀ i w, s.Due i w → i ≠ n → w.OfWarming k x old r.early i
  bounded : ∀ i ∈ r.early, i < s.tasks.length

/-- What the grid shows once it has taken the save. -/
structure Contested (k : Key) (x : E) (old : Option E) (s : Tiers E Out L) (r : Race) : Prop where
  upheld : r.overtaken = false → s.map.get? k = some x
  lost : r.overtaken = true → ∃ row, old = some row ∧ s.map.get? k = some (Entity.stamp k row)

section Steps

variable {k : Key} {x : E} {old : Option E} {n i : Nat} {s : Tiers E Out L} {r : Race}
  {w : Work E Out} {client : Client L}

theorem Race.mem_early_see {j : Nat} {c : Called E Out} (hj : j ≠ c.task) :
    j ∈ (r.see k n c).early ↔ j ∈ r.early := by
  obtain ⟨i, w, conduct⟩ := c
  have hj : j ≠ i := hj
  unfold Race.see
  split
  · split <;> simp_all
  · split
    · split <;> rfl
    · rfl
  · split <;> rfl
  · split <;> rfl
  · rfl

theorem Work.IsNotice.see (hw : w.IsNotice) (c : Conduct E) : r.see k n ⟨i, w, c⟩ = r := by
  cases w <;> first | rfl | exact hw.elim

theorem Contested.congr {t : Tiers E Out L} {r' : Race} (hc : Contested k x old s r)
    (hmap : t.map.get? k = s.map.get? k) (hr : r'.overtaken = r.overtaken) :
    Contested k x old t r' := by
  refine ⟨fun h => hmap.trans (hc.upheld (hr ▸ h)), fun h => ?_⟩
  obtain ⟨row, hrow, hget⟩ := hc.lost (hr ▸ h)
  exact ⟨row, hrow, hmap.trans hget⟩

theorem Warming.of_apply {m : Move E Out} (hs : Warming k x old n s r) {r' : Race}
    (hi : i < s.tasks.length) (policy : m.map.policy = s.map.policy) (keyed : m.store.Keyed)
    (row : m.store.rows.get? k = if r'.stored then some x else old)
    (next : ∀ v, m.progress = .next v → i ≠ n → v.OfWarming k x old r'.early i)
    (notices : ∀ v ∈ m.spawned, v.IsNotice)
    (early : ∀ j, j ≠ i → (j ∈ r'.early ↔ j ∈ r.early)) :
    Warming k x old n (s.apply i client m) r' := by
  have grows : s.tasks.length ≤ (s.apply i client m).tasks.length := by
    simp [Tiers.apply, Tiers.count]
  refine ⟨?_, keyed, row, fun j v hv hjn => ?_, fun j hj => ?_⟩
  · rw [Tiers.apply_map, policy, hs.retains]
  · rcases (Tiers.due_apply hi j v).1 hv with ⟨rfl, hn⟩ | ⟨hji, hd⟩ | ⟨-, hmem⟩
    · exact next v hn hjn
    · exact (hs.due j v hd hjn).congr (early j hji)
    · exact .notice (notices v (List.mem_of_getElem? hmem))
  · by_cases hji : j = i
    · exact Nat.lt_of_lt_of_le (hji ▸ hi) grows
    · exact Nat.lt_of_lt_of_le (hs.bounded j ((early j hji).1 hj)) grows

theorem Warming.of_ask (hs : Warming k x old n s r) {req : Request E Out}
    (opening : ∀ w, req.opening = .ok w → s.tasks.length ≠ n →
      w.OfWarming k x old r.early s.tasks.length) :
    Warming k x old n (s.ask client req).2 r := by
  refine ⟨?_, ?_, ?_, fun i w hw hin => ?_, fun i hi => ?_⟩
  · rw [Tiers.ask_map, hs.retains]
  · rw [Tiers.ask_store]
    exact hs.keyed
  · rw [Tiers.ask_store, hs.row]
  · rcases (Tiers.due_ask ..).1 hw with hd | ⟨rfl, ho⟩
    · exact hs.due i w hd hin
    · exact opening w ho hin
  · rw [Tiers.ask_tasks, List.length_append]
    exact Nat.lt_add_right _ (hs.bounded i hi)

/-- A load that reads before the store has the save is early, and has the old row. -/
theorem Warming.reads (hs : Warming k x old n s r) {early : List Nat}
    (hi : i ∈ early ↔ r.stored = false) (span : Span) :
    ∀ row ∈ s.store.rowsIn span.start span.stop, ∃ l, Entity.key row = .ok l ∧
      (l = k → if i ∈ early then old = some row else row = x) := by
  intro row hrow
  obtain ⟨l, hl⟩ := RowStore.get?_of_mem_rowsIn hrow
  refine ⟨l, hs.keyed l row hl, ?_⟩
  rintro rfl
  have hget := hs.row
  rw [hl] at hget
  cases hstored : r.stored with
  | false =>
    rw [if_pos (hi.2 hstored)]
    simpa [hstored] using hget.symm
  | true =>
    rw [if_neg fun h => by simp [hi.1 h] at hstored]
    simpa [hstored] using hget

/-- What a call does that leaves the race on: it does not bring the save into the store, and what
the grid shows once it took the save follows who put last. -/
structure Passes (k : Key) (x : E) (old : Option E) (n : Nat) (s t : Tiers E Out L) (r r' : Race) :
    Prop where
  around : Warming k x old n t r'
  stored : r'.stored = r.stored
  entry : Contested k x old s r → Contested k x old t r'

theorem Warming.call_scan (hs : Warming k x old n s r) {span : Span} (hw : s.Due i (.scan span))
    (h : i ∉ r.early) :
    Passes k x old n s
      (s.apply i client ((Work.scan span).advance i client.listener.isSome s.map s.store .serve)) r
      (r.see k n ⟨i, (.scan span : Work E Out), .serve⟩) := by
  let r' := r.see k n ⟨i, (.scan span : Work E Out), .serve⟩
  have hearly : i ∈ r'.early ↔ r.stored = false := by
    cases hstored : r.stored <;> simp [r', Race.see, hstored, h]
  have hstored : r'.stored = r.stored := by
    simp only [r', Race.see]
    split <;> rfl
  have hover : r'.overtaken = r.overtaken := by
    simp only [r', Race.see]
    split <;> rfl
  refine ⟨hs.of_apply hw.lt rfl hs.keyed ?_ (fun v hv _ => ?_) (List.forall_mem_nil _)
    fun j hj => Race.mem_early_see hj, hstored, fun hc => hc.congr rfl hover⟩
  · exact hs.row.trans (by rw [hstored])
  · cases hv
    exact .feed span _ 0 (hs.reads hearly span)

variable [LawfulEntity E]

theorem Warming.ask (hs : Warming k x old n s r) {req : Request E Out}
    (hr : (warming k).asks req) : Warming k x old n (s.ask client req).2 r := by
  refine hs.of_ask fun w ho _ => ?_
  cases req with
  | load span =>
    cases ho
    exact .scan span fun hmem => Nat.lt_irrefl _ (hs.bounded _ hmem)
  | save e =>
    cases hl : Entity.key e with
    | error err => simp [Request.opening_save_error hl] at ho
    | ok l =>
      rw [Request.opening_save hl] at ho
      cases ho
      exact .saveGrid (fun h => hr (h ▸ hl)) (Entity.key_stamp l e)
  | find | remove | execute | refill => exact hr.elim

theorem Warming.call_feed (hx : Entity.stamped? x = some k) (hs : Warming k x old n s r)
    {span : Span} {row : E} {left : List E} {count : Nat}
    (hw : s.Due i (.feed span (row :: left) count))
    (h : ∀ f ∈ row :: left, ∃ l, Entity.key f = .ok l ∧
      (l = k → if i ∈ r.early then old = some f else f = x)) :
    Passes k x old n s
      (s.apply i client ((Work.feed span (row :: left) count).advance i client.listener.isSome
        s.map s.store .serve)) r
      (r.see k n ⟨i, (.feed span (row :: left) count : Work E Out), .serve⟩) := by
  obtain ⟨l, hl, hrow⟩ := h row (.head _)
  have hm : (Work.feed span (row :: left) count : Work E Out).advance i client.listener.isSome
      s.map s.store .serve = ⟨s.map.put l (Entity.stamp l row), s.store,
        .next (.feed span left (count + 1)), [], [], none⟩ := by
    simp [Work.advance, Entity.stampedRow_eq hl]
  have hr : r.see k n ⟨i, (.feed span (row :: left) count : Work E Out), .serve⟩ =
      if l = k then { r with overtaken := decide (i ∈ r.early) } else r := by
    simp [Race.see, hl]
  rw [hm, hr]
  have policy := s.map.policy_put l (Entity.stamp l row)
  by_cases hlk : l = k
  · subst hlk
    rw [if_pos rfl]
    refine ⟨hs.of_apply hw.lt policy hs.keyed hs.row (fun v hv _ => ?_) (List.forall_mem_nil _)
      fun _ _ => .rfl, rfl, fun _ => ?_⟩
    · cases hv
      exact .feed span left _ fun f hf => h f (.tail _ hf)
    · have hget := (s.map.get?_put hs.retains l l (Entity.stamp l row)).trans (if_pos rfl)
      have hrow := hrow rfl
      refine ⟨fun hno => ?_, fun hyes => ⟨row, ?_, hget⟩⟩
      · rw [if_neg (by simpa using hno)] at hrow
        exact hget.trans (by rw [hrow, Entity.stamp_of_stamped hx])
      · rwa [if_pos (by simpa using hyes)] at hrow
  · rw [if_neg hlk]
    refine ⟨hs.of_apply hw.lt policy hs.keyed hs.row (fun v hv _ => ?_) (List.forall_mem_nil _)
      fun _ _ => .rfl, rfl, fun hc => hc.congr (s.map.get?_put_of_ne hlk _) rfl⟩
    cases hv
    exact .feed span left _ fun f hf => h f (.tail _ hf)

theorem Warming.call_other (hx : Entity.stamped? x = some k) (hs : Warming k x old n s r)
    (hw : s.Due i w) (hin : i ≠ n) :
    Passes k x old n s (s.apply i client (w.advance i client.listener.isSome s.map s.store .serve))
      r (r.see k n ⟨i, w, .serve⟩) := by
  cases hs.due i w hw hin with
  | scan span h => exact hs.call_scan hw h
  | feed span rest count h =>
    cases rest with
    | cons row left => exact hs.call_feed hx hw h
    | nil =>
      exact ⟨hs.of_apply hw.lt rfl hs.keyed hs.row (fun v hv => (nomatch hv))
        (List.forall_mem_nil _) fun _ _ => .rfl, rfl, fun hc => hc.congr rfl rfl⟩
  | notice hv =>
    obtain ⟨hmap, hstore, hprog, hsp⟩ :=
      Work.advance_notice i client.listener.isSome s.map s.store (c := .serve) hv
    rw [hv.see]
    refine ⟨hs.of_apply hw.lt (congrArg _ hmap) ?_ ?_ ?_ ?_ fun _ _ => .rfl, rfl,
      fun hc => hc.congr (congrArg (·.get? k) hmap) rfl⟩
    · rw [hstore]
      exact hs.keyed
    · rw [hstore, hs.row]
    · simp [hprog]
    · simp [hsp]
  | @saveGrid l e hl he =>
    have hr : r.see k n ⟨i, (.saveGrid l e : Work E Out), .serve⟩ = r := by simp [Race.see, hin]
    rw [hr]
    refine ⟨hs.of_apply hw.lt (s.map.policy_submit l _) hs.keyed hs.row (fun v hv _ => ?_)
      (List.forall_mem_nil _) fun _ _ => .rfl, rfl,
      fun hc => hc.congr (EntryMap.get?_submit_of_ne hl _) rfl⟩
    cases hv
    exact .saveStore hl he
  | @saveStore l e hl he =>
    have hr : r.see k n ⟨i, (.saveStore l e : Work E Out), .serve⟩ = r := by simp [Race.see, hin]
    obtain ⟨hmap, hrows, hprog, hsp⟩ :=
      Work.advance_saveStore i client.listener.isSome s.map s.store (c := .serve) rfl he
    rw [hr]
    refine ⟨hs.of_apply hw.lt (congrArg _ hmap) (hs.keyed.insert he hrows) ?_ (by simp [hprog]) hsp
      fun _ _ => .rfl, rfl, fun hc => hc.congr (congrArg (·.get? k) hmap) rfl⟩
    rw [hrows, Table.get?_insert, if_neg hl, hs.row]

end Steps

/-! ### The save -/

inductive SaveStage (k : Key) (x : E) (old : Option E) (n : Nat) (s : Tiers E Out L) (r : Race) :
    Prop
  | asked (due : s.Due n (.saveGrid k x)) (unstored : r.stored = false)
  | taken (due : s.Due n (.saveStore k x)) (unstored : r.stored = false)
    (entry : Contested k x old s r)
  | ended (result : s.result? n = some (.ok (.applied true))) (stored : r.stored = true)
    (entry : Contested k x old s r)

structure Racing (k : Key) (x : E) (old : Option E) (n : Nat) (s : Tiers E Out L) (r : Race) :
    Prop where
  around : Warming k x old n s r
  stage : SaveStage k x old n s r

section Runs

variable {k : Key} {x : E} {old : Option E} {n : Nat} {s : Tiers E Out L}
  {r : Race} {w : Work E Out} {client : Client L}

theorem Racing.call_own (hx : Entity.stamped? x = some k) (hs : Racing k x old n s r)
    (hw : s.Due n w) :
    Racing k x old n (s.apply n client (w.advance n client.listener.isSome s.map s.store .serve))
      (r.see k n ⟨n, w, .serve⟩) := by
  have early : ∀ j, j ≠ n → (j ∈ (r.see k n ⟨n, w, .serve⟩).early ↔ j ∈ r.early) := fun j hj =>
    Race.mem_early_see hj
  cases hs.stage with
  | ended result => simp [hw.result?] at result
  | asked due unstored =>
    obtain rfl := hw.unique due
    have hr : r.see k n ⟨n, (.saveGrid k x : Work E Out), .serve⟩ =
        { r with overtaken := false } := by
      simp [Race.see]
    refine ⟨hs.around.of_apply hw.lt (s.map.policy_submit k _) hs.around.keyed ?_
      (fun _ _ hn => absurd rfl hn) (List.forall_mem_nil _) early, .taken ?_ ?_ ⟨fun _ => ?_, ?_⟩⟩
    · rw [hr]
      exact hs.around.row
    · exact (Tiers.due_apply hw.lt ..).2 (.inl ⟨rfl, rfl⟩)
    · rw [hr]
      exact unstored
    · exact (EntryMap.get?_put hs.around.retains k k x).trans (if_pos rfl)
    · intro h
      simp [hr] at h
  | taken due unstored entry =>
    obtain rfl := hw.unique due
    have hr : r.see k n ⟨n, (.saveStore k x : Work E Out), .serve⟩ = { r with stored := true } := by
      simp [Race.see]
    have hk := Entity.key_of_stamped hx
    obtain ⟨hmap, hrows, hprog, hsp⟩ :=
      Work.advance_saveStore n client.listener.isSome s.map s.store (c := .serve) rfl hk
    refine ⟨hs.around.of_apply hw.lt (congrArg _ hmap) (hs.around.keyed.insert hk hrows) ?_
      (fun _ _ hn => absurd rfl hn) hsp early,
      .ended ?_ ?_ (entry.congr (congrArg (·.get? k) hmap) (by rw [hr]))⟩
    · rw [hrows, hr]
      simp
    · rw [Tiers.result?_apply hw.lt, if_pos rfl, hprog]
      rfl
    · rw [hr]

variable [LawfulEntity E]

theorem Racing.step (hx : Entity.stamped? x = some k) (s : Tiers E Out L)
    (h : List (Called E Out)) (ev : Event E Out L) (hs : Racing k x old n s (race k n h))
    (hp : s.Permits (warming k) ev) : Racing k x old n (s.step ev) (race k n (h ++ s.made ev)) := by
  cases ev with
  | lose l => exact hp.elim
  | ask client req =>
    rw [Tiers.made, List.append_nil]
    have entry : Contested k x old s (race k n h) →
        Contested k x old (s.ask client req).2 (race k n h) := fun hc =>
      hc.congr (by rw [Tiers.ask_map]) rfl
    refine ⟨hs.around.ask hp, ?_⟩
    cases hs.stage with
    | asked due unstored => exact .asked ((Tiers.due_ask ..).2 (.inl due)) unstored
    | taken due unstored hc => exact .taken ((Tiers.due_ask ..).2 (.inl due)) unstored (entry hc)
    | ended result stored hc =>
      exact .ended (by rwa [Tiers.step, Tiers.result?_ask]) stored (entry hc)
  | call i c =>
    rcases s.call_cases i c with ⟨hno, hcall⟩ | ⟨client, w, hw, hcall⟩
    · rwa [Tiers.made_of_not_due hno, List.append_nil, Tiers.step, hcall]
    · obtain rfl : c = .serve := hp w hw
      rw [Tiers.made_of_due hw, race_concat, Tiers.step, hcall]
      by_cases hin : i = n
      · subst hin
        exact hs.call_own hx hw
      · obtain ⟨around, hstored, entry⟩ := hs.around.call_other hx hw hin
        refine ⟨around, ?_⟩
        cases hs.stage with
        | asked due unstored =>
          exact .asked ((Tiers.due_apply hw.lt ..).2 (.inr (.inl ⟨Ne.symm hin, due⟩)))
            (hstored.trans unstored)
        | taken due unstored hc =>
          exact .taken ((Tiers.due_apply hw.lt ..).2 (.inr (.inl ⟨Ne.symm hin, due⟩)))
            (hstored.trans unstored) (entry hc)
        | ended result stored hc =>
          refine .ended ?_ (hstored.trans stored) (entry hc)
          rwa [Tiers.result?_apply hw.lt, if_neg (Ne.symm hin)]

theorem Warming.step (hx : Entity.stamped? x = some k) (s : Tiers E Out L)
    (h : List (Called E Out)) (ev : Event E Out L)
    (hs : (∀ c ∈ h, c.task ≠ n) →
      Warming k x old n s (race k n h) ∧ (race k n h).stored = false)
    (hp : s.Permits (warming k) ev) (unmade : ∀ c ∈ h ++ s.made ev, c.task ≠ n) :
    Warming k x old n (s.step ev) (race k n (h ++ s.made ev)) ∧
      (race k n (h ++ s.made ev)).stored = false := by
  obtain ⟨warming, unstored⟩ := hs fun c hc => unmade c (List.mem_append_left _ hc)
  cases ev with
  | lose l => exact hp.elim
  | ask client req =>
    rw [Tiers.made, List.append_nil]
    exact ⟨warming.ask hp, unstored⟩
  | call i c =>
    rcases s.call_cases i c with ⟨hno, hcall⟩ | ⟨client, w, hw, hcall⟩
    · rw [Tiers.made_of_not_due hno, List.append_nil, Tiers.step, hcall]
      exact ⟨warming, unstored⟩
    · obtain rfl : c = .serve := hp w hw
      rw [Tiers.made_of_due hw] at unmade ⊢
      have hin : i ≠ n := unmade _ (List.mem_append_right _ (.head _))
      obtain ⟨warming, hstored, -⟩ := warming.call_other hx hw hin
      rw [race_concat, Tiers.step, hcall]
      exact ⟨warming, hstored.trans unstored⟩

end Runs

/-! ### Finds of an entry that lasts -/

structure Lasting (k : Key) (e : E) (s : Tiers E Out L) : Prop where
  entry : s.map.get? k = some e
  retains : s.map.policy.retains = true
  due : ∀ i w, s.Due i w → w.OfFind fun _ _ => True

inductive Hitting (k : Key) (e : E) (parts : List KeyPart) (n : Nat) (s : Tiers E Out L) : Prop
  | asked (due : s.Due n (.readGrid k parts))
  | ended (result : s.result? n = some (.ok (.entity (some e))))

section Lasting

variable {k : Key} {e : E} {n : Nat} {parts : List KeyPart}

theorem Lasting.step (s : Tiers E Out L) (ev : Event E Out L) (hs : Lasting k e s)
    (hp : s.Permits (reading False) ev) : Lasting k e (s.step ev) := by
  have browsing : Browsing (fun _ _ => True) s.store.rows (s.step ev) :=
    Browsing.step (fun _ _ _ => trivial) s ev ⟨rfl, hs.due⟩ hp
  suffices h : (s.step ev).map.get? k = some e ∧ (s.step ev).map.policy.retains = true from
    ⟨h.1, h.2, browsing.due⟩
  cases ev with
  | lose l => exact hp.elim
  | ask client r =>
    rw [Tiers.step, Tiers.ask_map]
    exact ⟨hs.entry, hs.retains⟩
  | call i c =>
    rcases s.call_cases i c with ⟨-, hcall⟩ | ⟨client, w, hw, hcall⟩
    · rw [Tiers.step, hcall]
      exact ⟨hs.entry, hs.retains⟩
    · obtain rfl : c = .serve := hp w hw
      have hread : ∀ l row, s.store.rows.get? l = some row → True := fun _ _ _ => trivial
      obtain ⟨-, policy, -⟩ := (hs.due i w hw).advance i client.listener.isSome s.map hread
      obtain ⟨hkeep, hrefill⟩ :=
        (hs.due i w hw).get?_advance i client.listener.isSome s.map s.store k
      rw [Tiers.step, hcall, Tiers.apply_map]
      refine ⟨?_, by rw [policy, hs.retains]⟩
      cases hf : w.refill? k with
      | none => rw [hkeep hf, hs.entry]
      | some f => rw [hrefill f hf hs.retains, hs.entry, Option.getD_some]

theorem Hitting.step (s : Tiers E Out L) (ev : Event E Out L) (hs : Lasting k e s)
    (h : Hitting k e parts n s) (hp : s.Permits (reading False) ev) :
    Hitting k e parts n (s.step ev) := by
  cases ev with
  | lose l => exact hp.elim
  | ask client r =>
    cases h with
    | asked due => exact .asked ((Tiers.due_ask ..).2 (.inl due))
    | ended result => exact .ended (by rwa [Tiers.step, Tiers.result?_ask])
  | call i c =>
    cases h with
    | ended result => exact .ended (Tiers.result?_call c result)
    | asked due =>
      rcases s.call_cases i c with ⟨-, hcall⟩ | ⟨client, w, hw, hcall⟩
      · rw [Tiers.step, hcall]
        exact .asked due
      · obtain rfl : c = .serve := hp w hw
        by_cases hin : n = i
        · subst hin
          obtain rfl := hw.unique due
          exact .ended (Tiers.result?_call_readGrid due hs.entry)
        · rw [Tiers.step, hcall]
          exact .asked ((Tiers.due_apply hw.lt ..).2 (.inr (.inl ⟨hin, due⟩)))

theorem Lasting.shows {s : Tiers E Out L} (h : Lasting k e s) :
    s.Shows (reading False) k (some e) := by
  refine Tiers.shows_of_step (J := fun parts n => Hitting k e parts n) (fun s hs => hs.entry)
    Lasting.step (fun s client parts hk => ?_) (fun parts n s ev _ => Hitting.step s ev)
    (fun parts n s hs settled => ?_) h
  · exact .asked ((Tiers.due_ask ..).2 (.inr ⟨rfl, Request.opening_find hk⟩))
  · cases hs with
    | asked due => exact (settled n _ due).elim
    | ended result => exact result

end Lasting

/-! ### A save among loads -/

/-- When a save and all loads have come to their end, the store has what was saved, and so has the
grid for every later find, unless the last load to put the row had read it before the store had the
save. Then it is the old row that finds have. -/
theorem Tiers.saved_unless_overtaken [LawfulEntity E] {k : Key} {e : E} {s₀ : Tiers E Out L}
    (settled : s₀.Settled) (retains : s₀.map.policy.retains = true) (built : s₀.store.Built)
    (hk : Entity.key e = .ok k) {before : List (Event E Out L)}
    (hbefore : s₀.PermitsAll (warming k) before) (client : Client L)
    {after : List (Event E Out L)}
    (hafter : ((s₀.run before).ask client (.save e)).2.PermitsAll (warming k) after) :
    let s := ((s₀.run before).ask client (.save e)).2
    let n := (s₀.run before).tasks.length
    let overtaken := (race k n (s₀.calls before ++ s.calls after)).overtaken
    let t := s.run after
    t.Settled →
      t.result? n = some (.ok (.applied true)) ∧
        t.store.rows.get? k = some (Entity.stamp k e) ∧
          (overtaken = false → t.Shows (reading False) k (some (Entity.stamp k e))) ∧
            (overtaken = true → ∃ row, s₀.store.rows.get? k = some row ∧
              t.Shows (reading False) k (some (Entity.stamp k row))) := by
  intro s n overtaken t ended
  have hx : Entity.stamped? (Entity.stamp k e) = some k := LawfulEntity.stamped?_stamp k e
  have unmade : ∀ c ∈ [] ++ s₀.calls before, c.task ≠ n := by
    have fresh : s₀.Fresh [] := ⟨List.forall_mem_nil _, fun _ _ _ _ => List.forall_mem_nil _⟩
    exact fun c hc => Nat.ne_of_lt ((fresh.run before).bounded c hc)
  have quiet : Warming k (Entity.stamp k e) (s₀.store.rows.get? k) n s₀
      (race k n ([] : List (Called E Out))) :=
    ⟨retains, built.keyed, rfl, fun i w hw _ => .notice (settled i w hw), List.forall_mem_nil _⟩
  obtain ⟨around, unstored⟩ :=
    run_calls_of_step (Warming.step hx) (fun _ => ⟨quiet, rfl⟩) hbefore unmade
  rw [List.nil_append] at around unstored
  have asked : Racing k (Entity.stamp k e) (s₀.store.rows.get? k) n s
      (race k n (s₀.calls before)) :=
    ⟨around.of_ask fun _ _ hn => absurd rfl hn,
      .asked ((due_ask ..).2 (.inr ⟨rfl, Request.opening_save hk⟩)) unstored⟩
  have racing := run_calls_of_step (Racing.step hx) asked hafter
  -- What the grid has when all is done is what finds give from then on.
  have lasting : ∀ v, t.map.get? k = some v → t.Shows (reading False) k (some v) := fun v entry =>
    Lasting.shows ⟨entry, racing.around.retains, fun i w hw => .notice (ended i w hw)⟩
  cases racing.stage with
  | asked due | taken due => exact (ended n _ due).elim
  | ended result stored entry =>
    have row : t.store.rows.get? k = _ := racing.around.row
    rw [if_pos stored] at row
    refine ⟨result, row, fun h => lasting _ (entry.upheld h), fun h => ?_⟩
    obtain ⟨old, hold, hget⟩ := entry.lost h
    exact ⟨old, hold, lasting _ hget⟩

namespace Backfill

open Item

def seeded : Tiers Item Unit Unit :=
  Tiers.create ⟨"items", .bulk, ∅⟩ (RowStore.empty.seed [sample "old"]).2

def before : List (Event Item Unit Unit) :=
  [.ask .first (.load .full), .call 0 .serve]

def asked : Tiers Item Unit Unit :=
  ((seeded.run before).ask .first (.save (sample "new"))).2

def putLast : List (Event Item Unit Unit) :=
  [.call 1 .serve, .call 1 .serve, .call 0 .serve, .call 0 .serve]

def savedLast : List (Event Item Unit Unit) :=
  [.call 0 .serve, .call 0 .serve, .call 1 .serve, .call 1 .serve]

def again : List (Event Item Unit Unit) :=
  [.ask .first (.find [.int 7]), .call 2 .serve]

open Tiers in
theorem permitted_before : seeded.PermitsAll (warming sampleKey) before :=
  ⟨trivial, permits_call ⟨_, rfl⟩ rfl, trivial⟩

open Tiers in
theorem permitted_putLast : asked.PermitsAll (warming sampleKey) putLast :=
  ⟨permits_call ⟨_, rfl⟩ rfl, permits_call ⟨_, rfl⟩ rfl, permits_call ⟨_, rfl⟩ rfl,
    permits_call ⟨_, rfl⟩ rfl, trivial⟩

open Tiers in
theorem permitted_savedLast : asked.PermitsAll (warming sampleKey) savedLast :=
  ⟨permits_call ⟨_, rfl⟩ rfl, permits_call ⟨_, rfl⟩ rfl, permits_call ⟨_, rfl⟩ rfl,
    permits_call ⟨_, rfl⟩ rfl, trivial⟩

open Tiers in
theorem saved_or_overtaken :
    (asked.run savedLast).Shows (reading False) sampleKey (some (stampedSample "new")) ∧
      (asked.run putLast).Shows (reading False) sampleKey (some (stampedSample "old")) := by
  have built : seeded.store.Built := .seed .empty [sample "old"]
  have quiet : seeded.Settled := settled_of_isQuiet rfl
  have filed : seeded.store.rows.get? sampleKey = some (sample "old") := rfl
  have hkey : Entity.key (sample "new") = .ok sampleKey := rfl
  obtain ⟨-, -, upheld, -⟩ := saved_unless_overtaken quiet rfl built hkey permitted_before .first
    permitted_savedLast (settled_of_isQuiet rfl)
  obtain ⟨-, -, -, lost⟩ := saved_unless_overtaken quiet rfl built hkey permitted_before .first
    permitted_putLast (settled_of_isQuiet rfl)
  obtain ⟨row, hrow, shows⟩ := lost rfl
  cases filed.symm.trans hrow
  exact ⟨upheld rfl, shows⟩

/-- The save and the load came to their end, and the next find has the row from before. -/
theorem found_old_after_save :
    (asked.run putLast).isQuiet = true ∧
      (asked.run putLast).result? 1 = some (.ok (.applied true)) ∧
      (asked.run putLast).result? 0 = some (.ok (.loaded (.value 1))) ∧
      (asked.run putLast).store.rows.get? sampleKey = some (stampedSample "new") ∧
      (asked.run putLast).map.get? sampleKey = some (stampedSample "old") ∧
      ((asked.run putLast).run again).result? 2 =
        some (.ok (.entity (some (stampedSample "old")))) :=
  ⟨rfl, rfl, rfl, rfl, rfl, rfl⟩

end Backfill

end CacheAside
