import CacheAside.Proofs.Access.Ledger
import CacheAside.Proofs.Access.Writes
import CacheAside.Proofs.Map.Calls
import CacheAside.Proofs.Store.Keyed
/-!
A grid ahead of its store. Operations run one after the other, and any call may fail, the store's
part of a save included. An entry of the grid is then either the row that the store has, or what
the last save of its key has left there while the store has not written it.

Work that fills the grid from the store writes no row, so what it may put is the same from its
first call to its last. A write changes what belongs under its own key only, in two calls.
-/

set_option autoImplicit false

namespace CacheAside

variable {E Out L : Type}

/-- Any call may fail or crash without effect, and the store may refuse any write. -/
def unsteady : Climate E Out where
  asks _ := False
  meets _ c := c.Truthful
  loses := True

/-! ### The save of a key that the grid took last -/

def Called.taken? (k : Key) : Called E Out → Option (Nat × E)
  | ⟨n, .saveGrid l e, c⟩ =>
    match c.gridEnding with
    | .value () => if k = l then some (n, e) else none
    | _ => none
  | _ => none

def lastTaken (k : Key) (h : List (Called E Out)) : Option (Nat × E) :=
  (h.filterMap (·.taken? k)).getLast?

theorem lastTaken_append (k : Key) (h h' : List (Called E Out)) :
    lastTaken k (h ++ h') = (lastTaken k h').or (lastTaken k h) := by
  simp only [lastTaken, List.filterMap_append, List.getLast?_append]

theorem lastTaken_concat (k : Key) (h : List (Called E Out)) (x : Called E Out) :
    lastTaken k (h ++ [x]) = (x.taken? k).or (lastTaken k h) := by
  rw [lastTaken_append]
  cases hx : x.taken? k <;> simp [lastTaken, hx]

theorem Work.IsNotice.taken?_eq_none {w : Work E Out} (hw : w.IsNotice) (k : Key) (n : Nat)
    (c : Conduct E) : Called.taken? k ⟨n, w, c⟩ = none := by
  cases w <;> first | rfl | exact hw.elim

namespace Write

def takes (w : Write) (n : Nat) (e : E) : Option (Nat × E) :=
  (w.entry e).map (n, ·)

theorem taken?_gridWork (w : Write) (k l : Key) (n : Nat) (e : E) (c : Conduct E) :
    Called.taken? l ⟨n, (w.gridWork k e : Work E Out), c⟩ =
      match c.gridEnding with
      | .value () => if l = k then w.takes n e else none
      | _ => none := by
  cases w with
  | save => rfl
  | remove =>
    simp only [gridWork, Called.taken?, takes, entry, Option.map_none, ite_self]
    split <;> rfl

theorem taken?_storeWork (w : Write) (k l : Key) (n : Nat) (e : E) (c : Conduct E) :
    Called.taken? l ⟨n, (w.storeWork k e : Work E Out), c⟩ = none := by
  cases w <;> rfl

theorem not_isNotice_gridWork (w : Write) (k : Key) (e : E) :
    ¬ (w.gridWork k e : Work E Out).IsNotice := by
  cases w <;> exact id

theorem not_isNotice_storeWork (w : Write) (k : Key) (e : E) :
    ¬ (w.storeWork k e : Work E Out).IsNotice := by
  cases w <;> exact id

/-- What a map may show after the grid took a write. -/
def leaves (w : Write) (k : Key) (e : E) (view : Key → E → Prop) (l : Key) (f : E) : Prop :=
  if l = k then w.entry e = some f else view l f

end Write

theorem Shown.onGrid {view : Key → E → Prop} {map : EntryMap E} (h : Shown view map) (w : Write)
    (k : Key) (e : E) : Shown (w.leaves k e view) (w.onGrid map k e) := by
  have vacant : (w.onGrid map k e).Vacant := by
    cases w with
    | save => exact h.vacant.submit k _
    | remove => exact h.vacant.lose k
  have policy : (w.onGrid map k e).policy = map.policy := by
    cases w with
    | save => exact map.policy_submit k _
    | remove => rfl
  refine ⟨vacant, fun l f hf => ?_⟩
  unfold Write.leaves
  split
  · subst l
    cases hr : map.policy.retains with
    | false => simp [vacant (policy ▸ hr) k] at hf
    | true => rwa [w.get?_onGrid hr] at hf
  · rw [w.get?_onGrid_of_ne map ‹_›] at hf
    exact h.entry l f hf

variable [Entity E]

/-! ### Work that fills the grid from the store -/

namespace Work

/-- The work of finds and loads, with nothing at hand but what the grid may show. -/
inductive Supplies (view : Key → E → Prop) : Work E Out → Prop
  | notice {w : Work E Out} (h : w.IsNotice) : Supplies view w
  | readGrid {k : Key} {parts : List KeyPart} (h : Key.derive parts = .ok k) :
    Supplies view (.readGrid k parts)
  | readStore {k : Key} {parts : List KeyPart} (h : Key.derive parts = .ok k) :
    Supplies view (.readStore k parts)
  | refill {k : Key} {e : E} (h : view k e) : Supplies view (.refill k e)
  | scan (span : Span) : Supplies view (.scan span)
  | feed (span : Span) (rest : List E) (count : Nat)
    (h : ∀ row ∈ rest, ∃ k, Entity.key row = .ok k ∧ view k (Entity.stamp k row)) :
    Supplies view (.feed span rest count)

variable {view : Key → E → Prop} {w : Work E Out}

theorem Supplies.taken?_eq_none (h : w.Supplies view) (k : Key) (n : Nat) (c : Conduct E) :
    Called.taken? k ⟨n, w, c⟩ = none := by
  cases h with
  | notice h => exact h.taken?_eq_none k n c
  | readGrid | readStore | refill | scan | feed => rfl

variable [LawfulEntity E] {map : EntryMap E} {store : RowStore E} {c : Conduct E}

theorem Supplies.advance (hw : w.Supplies view) (hc : c.Truthful) (number : Nat) (listening : Bool)
    (shown : Shown view map) (keyed : store.Keyed)
    (stored : ∀ k row, store.rows.get? k = some row → view k (Entity.stamp k row)) :
    let m := w.advance number listening map store c
    m.store.rows = store.rows ∧ Shown view m.map ∧ (∀ v, m.progress = .next v → v.Supplies view) ∧
      ∀ v ∈ m.spawned, v.Supplies view := by
  cases hw with
  | notice h =>
    obtain ⟨hmap, hstore, hprog, hsp⟩ := advance_notice number listening map store (c := c) h
    exact ⟨congrArg _ hstore, by rwa [hmap], by simp [hprog], by simp [hsp]⟩
  | @readGrid k parts h =>
    rcases advance_readGrid number listening map store (k := k) hc parts with ⟨e, -, hm⟩ | hm
    · rw [hm]
      exact ⟨rfl, shown, by simp, List.forall_mem_nil _⟩
    · rw [hm]
      refine ⟨rfl, shown, fun v hv => ?_, List.forall_mem_nil _⟩
      cases hv
      exact .readStore h
  | @readStore k parts h =>
    obtain ⟨hmap, hrows, hend⟩ := advance_readStore number listening map store hc h
    refine ⟨hrows, by rwa [hmap], ?_, ?_⟩
    · rcases hend with ⟨err, hprog, -⟩ | ⟨hprog, -⟩ <;> simp [hprog]
    · rcases hend with ⟨err, -, hsp⟩ | ⟨-, hsp⟩
      · simp [hsp]
      · intro v hv
        rw [hsp, Option.mem_toList, Option.map_eq_some_iff] at hv
        obtain ⟨row, hrow, rfl⟩ := hv
        exact .refill (stored k row hrow)
  | @refill k e h =>
    obtain ⟨hmap, hstore, hprog, hsp⟩ :=
      advance_refill number listening map store (c := c) (k := k) (e := e)
    refine ⟨congrArg _ hstore, ?_, by simp [hprog], by simp [hsp]⟩
    rcases hmap with hmap | hmap
    · rwa [hmap]
    · rw [hmap]
      exact shown.refill h
  | scan span =>
    obtain ⟨hmap, hrows, hsp, hend⟩ := advance_scan number listening map store (c := c) span
    refine ⟨hrows, by rwa [hmap], fun v hv => ?_, by simp [hsp]⟩
    rcases hend with ⟨a, hprog⟩ | hprog
    · simp [hprog] at hv
    · rw [hprog] at hv
      cases hv
      refine .feed span _ 0 fun row hrow => ?_
      obtain ⟨k, hk⟩ := RowStore.get?_of_mem_rowsIn hrow
      exact ⟨k, keyed k row hk, stored k row hk⟩
  | feed span rest count h =>
    obtain ⟨hstore, hsp, ⟨⟨a, hprog⟩, hmap⟩ | ⟨row, left, key, e, rfl, hrow, hprog, hmap⟩⟩ :=
      advance_feed number listening map store (c := c) span rest count
    · exact ⟨congrArg _ hstore, by rwa [hmap], by simp [hprog], by simp [hsp]⟩
    · obtain ⟨k, hk, hv⟩ := h row (.head _)
      rw [Entity.stampedRow_eq hk] at hrow
      cases hrow
      refine ⟨congrArg _ hstore, by rw [hmap]; exact shown.put hv, fun v hnext => ?_, by simp [hsp]⟩
      rw [hprog] at hnext
      cases hnext
      exact .feed span left _ fun row hmem => h row (.tail _ hmem)

end Work

structure Supplying (view : Key → E → Prop) (rows : Table Key E) (s : Tiers E Out L)
    (h : List (Called E Out)) : Prop where
  rows_eq : s.store.rows = rows
  shown : Shown view s.map
  due : ∀ i w, s.Due i w → w.Supplies view
  taken : ∀ k, lastTaken k h = none

theorem Supplying.step [LawfulEntity E] {view : Key → E → Prop} {rows : Table Key E}
    (stored : ∀ k row, rows.get? k = some row →
      Entity.key row = .ok k ∧ view k (Entity.stamp k row))
    (s : Tiers E Out L) (h : List (Called E Out)) (e : Event E Out L)
    (hs : Supplying view rows s h) (hp : s.Permits unsteady e) :
    Supplying view rows (s.step e) (h ++ s.made e) := by
  cases e with
  | ask client request => exact hp.elim
  | lose k =>
    rw [Tiers.made, List.append_nil]
    exact ⟨hs.rows_eq, hs.shown.lose k, hs.due, hs.taken⟩
  | call i c =>
    rcases s.call_cases i c with ⟨hno, hcall⟩ | ⟨client, w, hw, hcall⟩
    · rwa [Tiers.made_of_not_due hno, List.append_nil, Tiers.step, hcall]
    · obtain ⟨hrows, hshown, hnext, hsp⟩ :=
        (hs.due i w hw).advance (hp w hw) i client.listener.isSome hs.shown
          (fun k row hk => (stored k row (hs.rows_eq ▸ hk)).1)
          fun k row hk => (stored k row (hs.rows_eq ▸ hk)).2
      rw [Tiers.made_of_due hw, Tiers.step, hcall]
      refine ⟨hrows.trans hs.rows_eq, hshown, Tiers.due_of_apply hs.due hw.lt hnext hsp, ?_⟩
      intro k
      rw [lastTaken_concat, (hs.due i w hw).taken?_eq_none k, Option.none_or, hs.taken k]

/-! ### The two calls of a write -/

namespace Write

structure Settles (w : Write) (k : Key) (x : E) (rows : Table Key E) (c : Conduct E)
    (r : Ending Fault Bool × RowStore E) : Prop where
  keyed : r.2.Keyed
  elsewhere : ∀ l, l ≠ k → r.2.rows.get? l = rows.get? l
  saved : w = .save → r.1 = .value true → r.2.rows.get? k = some x
  unserved : w = .save → r.1 ≠ .value true → c ≠ .serve

theorem settles_reply (w : Write) {k : Key} {x : E} (hk : Entity.key x = .ok k)
    {store : RowStore E} (keyed : store.Keyed) (c : Conduct E) :
    w.Settles k x store.rows c (w.reply store x c) := by
  cases c with
  | fail | crash | refuse =>
    refine ⟨keyed, fun _ _ => rfl, fun _ h => ?_, fun _ _ h => ?_⟩ <;> cases h
  | serve | answer =>
    cases w with
    | save =>
      have hrows : (store.save x).2.rows = store.rows.insert k x := store.rows_save hk
      refine ⟨keyed.insert hk hrows, fun l hl => ?_, fun _ _ => ?_, fun _ hno => absurd ?_ hno⟩
      · exact (congrArg (Table.get? · l) hrows).trans (by simp [Ne.symm hl])
      · exact (congrArg (Table.get? · k) hrows).trans (by simp)
      · exact congrArg Ending.ofExcept (store.save_fst hk)
    | remove =>
      have hrows : (store.remove x).2.rows = store.rows.erase k := store.rows_remove hk
      refine ⟨keyed.erase hrows, fun l hl => ?_, fun h => ?_, fun h => ?_⟩
      · exact (congrArg (Table.get? · l) hrows).trans (by simp [Ne.symm hl])
      all_goals cases h

omit [Entity E] in
theorem granted_reply (r : Ending Fault Bool) :
    granted (some (((r.surfaced .store).map .applied : Result (Answer E Out)))) = true ↔
      r = .value true := by
  cases r <;> simp [Ending.surfaced, Except.map, granted]

/-- How far a write by task `n` has come, with the calls made since it began. -/
inductive Underway (w : Write) (k : Key) (x : E) (n : Nat) (view : Key → E → Prop)
    (rows : Table Key E) (s : Tiers E Out L) (h : List (Called E Out)) : Prop
  | asked (alone : s.Alone n (w.gridWork k x)) (rows_eq : s.store.rows = rows)
    (shown : Shown view s.map) (taken : ∀ l, lastTaken l h = none)
  | taken (alone : s.Alone n (w.storeWork k x)) (rows_eq : s.store.rows = rows)
    (shown : Shown (w.leaves k x view) s.map)
    (taken : ∀ l, lastTaken l h = if l = k then w.takes n x else none)
  | refused (settled : s.Settled) (idle : ∀ v, ¬ s.Due n v) (rows_eq : s.store.rows = rows)
    (shown : Shown view s.map) (taken : ∀ l, lastTaken l h = none)
  | ended (settled : s.Settled) (c : Conduct E) (r : Ending Fault Bool × RowStore E)
    (result : s.result? n = some ((r.1.surfaced .store).map .applied))
    (rows_eq : s.store.rows = r.2.rows) (settles : w.Settles k x rows c r)
    (shown : Shown (w.leaves k x view) s.map)
    (taken : ∀ l, lastTaken l h = if l = k then w.takes n x else none)
    (called : ⟨n, w.storeWork k x, c⟩ ∈ h)

variable {w : Write} {k : Key} {x : E} {n : Nat} {view : Key → E → Prop} {rows : Table Key E}
  {s t : Tiers E Out L} {h : List (Called E Out)}

theorem Underway.isNotice (hs : w.Underway k x n view rows s h) {i : Nat} {v : Work E Out}
    (hv : s.Due i v) (hin : i ≠ n) : v.IsNotice := by
  cases hs with
  | asked alone | taken alone => exact (alone.rest i v hv).resolve_right hin
  | refused settled | ended settled => exact settled i v hv

theorem Underway.call_notice (hs : w.Underway k x n view rows s h) {client : Client L} {i : Nat}
    {v : Work E Out} (hi : s.Due i v) (hin : i ≠ n) (hv : v.IsNotice) (c : Conduct E) :
    w.Underway k x n view rows
      (s.apply i client (v.advance i client.listener.isSome s.map s.store c))
      (h ++ [⟨i, v, c⟩]) := by
  have hmap : (s.apply i client (v.advance i client.listener.isSome s.map s.store c)).map = s.map :=
    Tiers.apply_notice_map hv _ c
  have hstore : (s.apply i client (v.advance i client.listener.isSome s.map s.store c)).store =
      s.store := Tiers.apply_notice_store hv _ c
  have htaken : ∀ l, lastTaken l (h ++ [⟨i, v, c⟩]) = lastTaken l h := fun l => by
    rw [lastTaken_concat, hv.taken?_eq_none, Option.none_or]
  cases hs with
  | asked alone rows_eq shown taken =>
    refine .asked (alone.apply_notice hin hi hv _ c) ?_ ?_ fun l => (htaken l).trans (taken l)
    · rw [hstore, rows_eq]
    · rwa [hmap]
  | taken alone rows_eq shown taken =>
    refine .taken (alone.apply_notice hin hi hv _ c) ?_ ?_ fun l => (htaken l).trans (taken l)
    · rw [hstore, rows_eq]
    · rwa [hmap]
  | refused settled idle rows_eq shown taken =>
    refine .refused (settled.apply_notice hi _ c) (fun u hu => ?_) ?_ ?_
      fun l => (htaken l).trans (taken l)
    · exact idle u ((Tiers.due_apply_notice hi hv ..).1 hu).2
    · rw [hstore, rows_eq]
    · rwa [hmap]
  | ended settled d r result rows_eq settles shown taken called =>
    refine .ended (settled.apply_notice hi _ c) d r ?_ ?_ settles ?_
      (fun l => (htaken l).trans (taken l)) (List.mem_append_left _ called)
    · rw [Tiers.result?_apply hi.lt, if_neg (Ne.symm hin), result]
    · rw [hstore, rows_eq]
    · rwa [hmap]

theorem Underway.call_own (hk : Entity.key x = .ok k)
    (keyed : ∀ l row, rows.get? l = some row → Entity.key row = .ok l)
    (hs : w.Underway k x n view rows s h) {client : Client L} {v : Work E Out} (hv : s.Due n v)
    (c : Conduct E) :
    w.Underway k x n view rows
      (s.apply n client (v.advance n client.listener.isSome s.map s.store c))
      (h ++ [⟨n, v, c⟩]) := by
  cases hs with
  | refused _ idle => exact absurd hv (idle v)
  | ended _ _ _ result => simp [hv.result?] at result
  | asked alone rows_eq shown taken =>
    obtain rfl := hv.unique alone.due
    obtain ⟨hstore, hsp, -, ⟨served, hmap, hprog⟩ | ⟨err, failed, hmap, hprog⟩⟩ :=
      advance_gridWork Out w n client.listener.isSome s.map s.store c k x
    · refine .taken (alone.of_apply hprog hsp) ?_ ?_ fun l => ?_
      · rw [Tiers.apply_store, hstore, rows_eq]
      · rw [Tiers.apply_map, hmap]
        exact shown.onGrid w k x
      · rw [lastTaken_concat, taken?_gridWork, (surfaced_grid_eq_ok_iff c).1 served, taken l,
          Option.or_none]
    · refine .refused (.of_apply alone.rest hv.lt (by simp [hprog]) (by simp [hsp])) ?_ ?_ ?_
        fun l => ?_
      · intro u hu
        rcases (Tiers.due_apply hv.lt n u).1 hu with ⟨-, hn⟩ | ⟨hne, -⟩ | ⟨-, hmem⟩
        · simp [hprog] at hn
        · exact hne rfl
        · simp [hsp] at hmem
      · rw [Tiers.apply_store, hstore, rows_eq]
      · rwa [Tiers.apply_map, hmap]
      · have hno : c.gridEnding ≠ .value () := fun hval => by simp [hval, Ending.surfaced] at failed
        rw [lastTaken_concat, taken?_gridWork, taken l, Option.or_none]
        split
        · exact absurd ‹_› hno
        · rfl
  | taken alone rows_eq shown taken =>
    obtain rfl := hv.unique alone.due
    obtain ⟨hmap, hstore, -, hprog, hsp⟩ :=
      advance_storeWork Out w n client.listener.isSome s.map s.store c k x
    have notices : ∀ u ∈ ((w.storeWork k x : Work E Out).advance n client.listener.isSome s.map
        s.store c).spawned, u.IsNotice := by
      rw [hsp]
      split <;> simp [Work.IsNotice]
    have keyed : s.store.Keyed := fun l row hl => keyed l row (rows_eq ▸ hl)
    refine .ended (.of_apply alone.rest hv.lt (by simp [hprog]) notices) c (w.reply s.store x c)
      ?_ ?_ (rows_eq ▸ w.settles_reply hk keyed c) ?_ (fun l => ?_)
      (List.mem_append_right _ (.head _))
    · rw [Tiers.result?_apply hv.lt, if_pos rfl, hprog]
      rfl
    · rw [Tiers.apply_store, hstore]
    · rwa [Tiers.apply_map, hmap]
    · rw [lastTaken_concat, taken?_storeWork, Option.none_or, taken l]

theorem Underway.step (hk : Entity.key x = .ok k)
    (keyed : ∀ l row, rows.get? l = some row → Entity.key row = .ok l) (s : Tiers E Out L)
    (h : List (Called E Out)) (e : Event E Out L) (hs : w.Underway k x n view rows s h)
    (hp : s.Permits unsteady e) : w.Underway k x n view rows (s.step e) (h ++ s.made e) := by
  cases e with
  | ask client request => exact hp.elim
  | lose l =>
    rw [Tiers.made, List.append_nil]
    cases hs with
    | asked alone rows_eq shown taken =>
      exact .asked ⟨alone.due, alone.rest⟩ rows_eq (shown.lose l) taken
    | taken alone rows_eq shown taken =>
      exact .taken ⟨alone.due, alone.rest⟩ rows_eq (shown.lose l) taken
    | refused settled idle rows_eq shown taken =>
      exact .refused settled idle rows_eq (shown.lose l) taken
    | ended settled c r result rows_eq settles shown taken called =>
      exact .ended settled c r result rows_eq settles (shown.lose l) taken called
  | call i c =>
    rcases s.call_cases i c with ⟨hno, hcall⟩ | ⟨client, v, hv, hcall⟩
    · rwa [Tiers.made_of_not_due hno, List.append_nil, Tiers.step, hcall]
    · rw [Tiers.made_of_due hv, Tiers.step, hcall]
      by_cases hin : i = n
      · subst hin
        exact hs.call_own hk keyed hv c
      · exact hs.call_notice hv hin (hs.isNotice hv hin) c

end Write

/-! ### Operations one after the other -/

namespace Tiers

/-- The states that operations one after the other lead to, with the calls on the way. -/
inductive Course (climate : Climate E Out) (s₀ : Tiers E Out L) :
    Tiers E Out L → List (Called E Out) → Prop
  | start : Course climate s₀ s₀ []
  | next {s : Tiers E Out L} {h : List (Called E Out)} (client : Client L) (op : Operation E)
      (events : List (Event E Out L)) (before : Course climate s₀ s h)
      (permitted : (s.begin client op).PermitsAll climate events)
      (settled : ((s.begin client op).run events).Settled) :
      Course climate s₀ ((s.begin client op).run events) (h ++ (s.begin client op).calls events)

def Stored (s : Tiers E Out L) (k : Key) (e : E) : Prop :=
  ∃ row, s.store.rows.get? k = some row ∧ e = Entity.stamp k row

/-- The entity is that of save `n`, the last of its key that the grid took, and the store was
called for that save but did not apply it. -/
structure AheadBy (s : Tiers E Out L) (h : List (Called E Out)) (k : Key) (e : E) (n : Nat) :
    Prop where
  last : lastTaken k h = some (n, e)
  called : ∃ c, ⟨n, .saveStore k e, c⟩ ∈ h ∧ c ≠ .serve
  unapplied : ∃ r, s.result? n = some r ∧ granted (some r) = false

def Accounted (s : Tiers E Out L) (h : List (Called E Out)) (k : Key) (e : E) : Prop :=
  Entity.stamped? e = some k ∧ (s.Stored k e ∨ ∃ n, s.AheadBy h k e n)

structure Confined (s : Tiers E Out L) (h : List (Called E Out)) : Prop where
  keyed : s.store.Keyed
  settled : s.Settled
  shown : Shown (s.Accounted h) s.map

variable {s t : Tiers E Out L} {h h' : List (Called E Out)} {k : Key} {e : E}

omit [Entity E] in
/-- Calls after it do not bring a save back into line unless the grid took another. -/
theorem AheadBy.append {n : Nat} (ha : s.AheadBy h k e n) (hnone : lastTaken k h' = none)
    (results : ∀ i r, s.result? i = some r → t.result? i = some r) : t.AheadBy (h ++ h') k e n := by
  obtain ⟨c, hc, hserve⟩ := ha.called
  obtain ⟨r, hr, hgranted⟩ := ha.unapplied
  refine ⟨?_, ⟨c, List.mem_append_left _ hc, hserve⟩, r, results n r hr, hgranted⟩
  rw [lastTaken_append, hnone, Option.none_or, ha.last]

theorem Accounted.append (hb : s.Accounted h k e) (hrow : t.store.rows.get? k = s.store.rows.get? k)
    (hnone : lastTaken k h' = none)
    (results : ∀ i r, s.result? i = some r → t.result? i = some r) : t.Accounted (h ++ h') k e := by
  obtain ⟨stamped, ⟨row, hk, he⟩ | ⟨n, ahead⟩⟩ := hb
  · exact ⟨stamped, .inl ⟨row, hrow.trans hk, he⟩⟩
  · exact ⟨stamped, .inr ⟨n, ahead.append hnone results⟩⟩

section Operations

variable {client : Client L} {op : Operation E} {events : List (Event E Out L)}

theorem result?_begin_run {i : Nat} {r : Result (Answer E Out)} (hr : s.result? i = some r) :
    ((s.begin client op).run events).result? i = some r :=
  result?_run events (by rw [begin, result?_askAll, hr])

variable [LawfulEntity E]

theorem Confined.stored (hs : s.Confined h) {row : E} (hk : s.store.rows.get? k = some row) :
    Entity.key row = .ok k ∧ s.Accounted h k (Entity.stamp k row) :=
  ⟨hs.keyed k row hk, LawfulEntity.stamped?_stamp k row, .inl ⟨row, hk, rfl⟩⟩

theorem Confined.supply (hs : s.Confined h)
    (supplies : ∀ r ∈ (op.requests : List (Request E Out)), ∀ w, r.opening = .ok w →
      w.Supplies (s.Accounted h))
    (permitted : (s.begin client op).PermitsAll unsteady events)
    (settled : ((s.begin client op).run events).Settled) :
    ((s.begin client op).run events).Confined (h ++ (s.begin client op).calls events) := by
  -- Nothing that is asked for here writes a row, so an entry is accounted for from first to last.
  have start : Supplying (s.Accounted h) s.store.rows (s.begin client op) [] := by
    refine ⟨by rw [begin, askAll_store], by rw [begin, askAll_map]; exact hs.shown, ?_,
      fun _ => rfl⟩
    exact due_askAll client (fun j w hw => .notice (hs.settled j w hw)) supplies
  have done := run_calls_of_step (Supplying.step fun k row => hs.stored) start permitted
  rw [List.nil_append] at done
  refine ⟨fun k row hk => hs.keyed k row (done.rows_eq ▸ hk), settled, done.shown.mono ?_⟩
  intro k e hb
  exact hb.append (congrArg (Table.get? · k) done.rows_eq) (done.taken k)
    fun i r => result?_begin_run

theorem Confined.write (hs : s.Confined h) {w : Write} {e : E} (hk : Entity.key e = .ok k)
    (permitted : (s.ask client (w.request e)).2.PermitsAll unsteady events)
    (settled : ((s.ask client (w.request e)).2.run events).Settled) :
    ((s.ask client (w.request e)).2.run events).Confined
      (h ++ (s.ask client (w.request e)).2.calls events) := by
  have hx : Entity.key (w.subject k e) = .ok k := by
    cases w with
    | save => exact Entity.key_stamp k e
    | remove => exact hk
  have start : w.Underway k (w.subject k e) s.tasks.length (s.Accounted h) s.store.rows
      (s.ask client (w.request e)).2 [] := by
    refine .asked (.ask hs.settled (w.opening_request hk)) ?_ ?_ fun _ => rfl
    · rw [ask_store]
    · rw [ask_map]
      exact hs.shown
  have done := run_calls_of_step (Write.Underway.step hx hs.keyed) start permitted
  rw [List.nil_append] at done
  have results : ∀ i r, s.result? i = some r →
      ((s.ask client (w.request e)).2.run events).result? i = some r := fun i r hr =>
    result?_run events (by rw [result?_ask, hr])
  cases done with
  | asked alone => exact (w.not_isNotice_gridWork k _ (settled _ _ alone.due)).elim
  | taken alone => exact (w.not_isNotice_storeWork k _ (settled _ _ alone.due)).elim
  | refused _ _ rows_eq shown taken =>
    refine ⟨fun l row hl => hs.keyed l row (rows_eq ▸ hl), settled, shown.mono fun l f hb => ?_⟩
    exact hb.append (congrArg (Table.get? · l) rows_eq) (taken l) results
  | ended _ c r result rows_eq settles shown taken called =>
    refine ⟨fun l row hl => settles.keyed l row (rows_eq ▸ hl), settled, shown.mono ?_⟩
    intro l f hf
    unfold Write.leaves at hf
    split at hf
    · subst l
      cases w with
      | remove => cases hf
      | save =>
        cases hf
        have stamped : Entity.stamped? (Entity.stamp k e) = some k :=
          LawfulEntity.stamped?_stamp k e
        refine ⟨stamped, ?_⟩
        by_cases applied : r.1 = .value true
        · refine .inl ⟨_, (congrArg (Table.get? · k) rows_eq).trans (settles.saved rfl applied), ?_⟩
          exact (Entity.stamp_of_stamped stamped).symm
        · refine .inr ⟨s.tasks.length, ?_, ⟨c, List.mem_append_right _ called, ?_⟩, _, result, ?_⟩
          · rw [lastTaken_append, taken k, if_pos rfl]
            rfl
          · exact settles.unserved rfl applied
          · rwa [← Bool.not_eq_true, Write.granted_reply]
    · have hrow : _ = s.store.rows.get? l :=
        (congrArg (Table.get? · l) rows_eq).trans (settles.elsewhere l ‹_›)
      exact hf.append hrow (by rw [taken l, if_neg ‹_›]) results

theorem Confined.operation (hs : s.Confined h) (client : Client L) (op : Operation E)
    (permitted : (s.begin client op).PermitsAll unsteady events)
    (settled : ((s.begin client op).run events).Settled) :
    ((s.begin client op).run events).Confined (h ++ (s.begin client op).calls events) := by
  cases op with
  | find parts =>
    refine hs.supply (fun r hr w ho => ?_) permitted settled
    obtain rfl := List.mem_singleton.1 hr
    cases hk : Key.derive parts with
    | error err => simp [Request.opening_find_error hk] at ho
    | ok k =>
      rw [Request.opening_find hk] at ho
      cases ho
      exact .readGrid hk
  | load span splits =>
    refine hs.supply (fun r hr w ho => ?_) permitted settled
    obtain ⟨part, -, rfl⟩ := List.mem_map.1 hr
    cases ho
    exact .scan part
  | save e =>
    cases hk : Entity.key e with
    | ok k => exact hs.write (w := .save) hk permitted settled
    | error err =>
      refine hs.supply (fun r hr w ho => ?_) permitted settled
      obtain rfl := List.mem_singleton.1 hr
      simp [Request.opening_save_error hk] at ho
  | remove e =>
    cases hk : Entity.key e with
    | ok k => exact hs.write (w := .remove) hk permitted settled
    | error err =>
      refine hs.supply (fun r hr w ho => ?_) permitted settled
      obtain rfl := List.mem_singleton.1 hr
      simp [Request.opening_remove_error hk] at ho

end Operations

theorem Course.confined [LawfulEntity E] {s₀ : Tiers E Out L} (hs : Course unsteady s₀ s h)
    (h₀ : s₀.Confined []) : s.Confined h := by
  induction hs with
  | start => exact h₀
  | next client op events _ permitted settled ih => exact ih.operation client op permitted settled

/-- An entry of the grid is the row that the store has, or what the last save of its key that the
grid took has left, which the store has not applied. -/
theorem Course.entry_accounted [LawfulEntity E] {name : String} {policy : MapPolicy}
    {map : EntryMap E} (created : EntryMap.create name policy = .ok map) {store : RowStore E}
    (built : store.Built) {meters : List Meter}
    (hs : Course unsteady { create map store with meters } s h) (entry : s.map.get? k = some e) :
    Entity.stamped? e = some k ∧ (s.Stored k e ∨ ∃ n, s.AheadBy h k e n) := by
  refine (hs.confined ⟨built.keyed, ?_, .create _ created⟩).shown.entry k e entry
  exact fun i w hw => absurd hw (not_due_of_tasks_nil rfl i w)

end Tiers

namespace Outage

open Item

def store : RowStore Item :=
  (RowStore.empty.seed [sample "old"]).2

def idle : Tiers Item Unit Unit :=
  Tiers.create ⟨"items", .standard, ∅⟩ store

def saving : List (Event Item Unit Unit) :=
  [.call 0 .serve, .call 0 (.fail (.ofText "down"))]

def saved : Tiers Item Unit Unit :=
  (idle.begin .first (.save (sample "new"))).run saving

def finding : List (Event Item Unit Unit) :=
  [.call 1 (.crash "lost"), .call 1 .serve, .call 2 .serve]

def found : Tiers Item Unit Unit :=
  (saved.begin .first (.find [.int 7])).run finding

def calls : List (Called Item Unit) :=
  [] ++ (idle.begin .first (.save (sample "new"))).calls saving ++
    (saved.begin .first (.find [.int 7])).calls finding

open Tiers in
theorem course : Course unsteady idle found calls := by
  have before : Course unsteady idle saved
      ([] ++ (idle.begin .first (.save (sample "new"))).calls saving) :=
    .next .first (.save (sample "new")) _ .start
      ⟨permits_call ⟨_, rfl⟩ trivial, permits_call ⟨_, rfl⟩ trivial, trivial⟩
      (settled_of_isQuiet rfl)
  exact .next .first (.find [.int 7]) _ before
    ⟨permits_call ⟨_, rfl⟩ trivial, permits_call ⟨_, rfl⟩ trivial,
      permits_call ⟨_, rfl⟩ trivial, trivial⟩
    (settled_of_isQuiet rfl)

open Tiers in
/-- The find gave the old row, and the grid is still ahead of it. -/
theorem still_ahead :
    found.result? 1 = some (.ok (.entity (some (stampedSample "old")))) ∧
      ∃ n, found.AheadBy calls sampleKey (stampedSample "new") n := by
  have created : EntryMap.create "items" .standard =
      .ok (⟨"items", .standard, ∅⟩ : EntryMap Item) := rfl
  have entry : found.map.get? sampleKey = some (stampedSample "new") := rfl
  have filed : found.store.rows.get? sampleKey = some (sample "old") := rfl
  obtain ⟨-, ⟨row, hrow, heq⟩ | ahead⟩ :=
    Course.entry_accounted created (.seed .empty [sample "old"]) course entry
  · cases filed.symm.trans hrow
    exact absurd (congrArg Item.content heq) (by decide)
  · exact ⟨rfl, ahead⟩

end Outage

end CacheAside
