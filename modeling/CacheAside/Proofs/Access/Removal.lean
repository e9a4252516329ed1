import CacheAside.Proofs.Access.ReadYourWrites
import CacheAside.Proofs.Grid.Entries
import Mathlib.Data.List.TakeWhile
/-!
A removal among finds. The row that is removed comes back into the grid if a find has read it from
the store before the deletion and its refill comes after the grid's part of the removal: a refill
gives way to an entry, but nothing tells it of an entry that was taken away. Otherwise the entry is
gone for good.
-/

set_option autoImplicit false

namespace CacheAside

variable {E Out L : Type}

/-- Clients find only, and every call is served. The grid may or may not lose entries. -/
def reading (loses : Prop) : Climate E Out where
  asks
    | .find _ => True
    | _ => False
  meets _ c := c = .serve
  loses := loses

namespace Work

def refill? (k : Key) : Work E Out → Option E
  | .refill l f => if l = k then some f else none
  | _ => none

theorem IsNotice.refill?_eq_none {w : Work E Out} (h : w.IsNotice) (k : Key) :
    w.refill? k = none := by
  cases w <;> first | rfl | exact h.elim

inductive OfFind (kind : Key → E → Prop) : Work E Out → Prop
  | notice {w : Work E Out} (h : w.IsNotice) : OfFind kind w
  | readGrid {l : Key} {parts : List KeyPart} (h : Key.derive parts = .ok l) :
    OfFind kind (.readGrid l parts)
  | readStore {l : Key} {parts : List KeyPart} (h : Key.derive parts = .ok l) :
    OfFind kind (.readStore l parts)
  | refill {l : Key} {f : E} (h : kind l f) : OfFind kind (.refill l f)

theorem OfFind.of_refill? {kind : Key → E → Prop} {w : Work E Out} (hw : w.OfFind kind) {k : Key}
    {f : E} (hf : w.refill? k = some f) : kind k f := by
  cases hw with
  | notice h => simp [h.refill?_eq_none] at hf
  | readGrid | readStore => cases hf
  | refill h =>
    simp only [refill?] at hf
    split at hf <;> cases hf
    rwa [← ‹_ = k›]

end Work

def lateRefill (k : Key) (n : Nat) (h : List (Called E Out)) : Bool :=
  (h.dropWhile (·.task ≠ n)).any fun x => (x.work.refill? k).isSome

section Late

variable {k : Key} {n : Nat} {h : List (Called E Out)} {x : Called E Out}

theorem lateRefill_of_first (unmade : ∀ x ∈ h, x.task ≠ n) (hx : x.work.refill? k = none) :
    lateRefill k n (h ++ [x]) = false := by
  have hnil : h.dropWhile (·.task ≠ n) = [] :=
    List.dropWhile_eq_nil_iff.2 fun x hx => by simpa using unmade x hx
  rw [lateRefill, List.dropWhile_append, hnil]
  by_cases hn : x.task = n <;> simp [hn, hx]

theorem lateRefill_append (made : ∃ x ∈ h, x.task = n) (x : Called E Out) :
    lateRefill k n (h ++ [x]) = (lateRefill k n h || (x.work.refill? k).isSome) := by
  obtain ⟨y, hy, hyn⟩ := made
  have hne : h.dropWhile (·.task ≠ n) ≠ [] := by
    intro hnil
    simpa [hyn] using List.dropWhile_eq_nil_iff.1 hnil y hy
  rw [lateRefill, List.dropWhile_append, if_neg (by simpa using hne), List.any_append, lateRefill]
  simp

end Late

/-! ### One call of a find -/

section Moves

variable [Entity E] {kind : Key → E → Prop} {map : EntryMap E} {store : RowStore E}
  {w : Work E Out} {k : Key}

namespace Work

theorem opening_ofFind {loses : Prop} {r : Request E Out} (hr : (reading loses).asks r)
    (h : r.opening = .ok w) : w.OfFind kind := by
  cases r with
  | find parts =>
    cases hk : Key.derive parts with
    | error err => simp [Request.opening_find_error hk] at h
    | ok l =>
      rw [Request.opening_find hk] at h
      cases h
      exact .readGrid hk
  | save | remove | execute | refill | load => exact hr.elim

theorem advance_readGrid_miss (number : Nat) (listening : Bool) (store : RowStore E)
    (h : map.get? k = none) (parts : List KeyPart) :
    (readGrid k parts : Work E Out).advance number listening map store .serve =
      ⟨map, store, .next (.readStore k parts), [.gridGet], [], none⟩ := by
  simp [advance, readAnswer, h]

theorem progress_readStore_absent (number : Nat) (listening : Bool) (map : EntryMap E)
    {parts : List KeyPart} (hk : Key.derive parts = .ok k) (h : store.rows.get? k = none) :
    ((readStore k parts : Work E Out).advance number listening map store .serve).progress =
      .done (.ok (.entity none)) := by
  simp [advance, failure, RowStore.find, RowStore.peek, hk, h, afterStoreRead]

theorem OfFind.advance (hw : w.OfFind kind) (number : Nat) (listening : Bool) (map : EntryMap E)
    (hread : ∀ l row, store.rows.get? l = some row → kind l (Entity.stamp l row)) :
    let m := w.advance number listening map store .serve
    m.store.rows = store.rows ∧ m.map.policy = map.policy ∧
      (∀ v, m.progress = .next v → v.OfFind kind) ∧ ∀ v ∈ m.spawned, v.OfFind kind := by
  cases hw with
  | notice h =>
    obtain ⟨hmap, hstore, hprog, hsp⟩ := advance_notice number listening map store (c := .serve) h
    exact ⟨congrArg _ hstore, congrArg _ hmap, by simp [hprog], by simp [hsp]⟩
  | @readGrid l parts h =>
    rcases advance_readGrid number listening map store (c := .serve) (k := l) trivial parts
      with ⟨e, -, hm⟩ | hm
    · rw [hm]
      exact ⟨rfl, rfl, by simp, List.forall_mem_nil _⟩
    · rw [hm]
      refine ⟨rfl, rfl, fun v hv => ?_, List.forall_mem_nil _⟩
      cases hv
      exact .readStore h
  | @readStore l parts h =>
    obtain ⟨hmap, hrows, hend⟩ := advance_readStore number listening map store (c := .serve)
      trivial h
    refine ⟨hrows, congrArg _ hmap, ?_, ?_⟩
    · rcases hend with ⟨err, hprog, -⟩ | ⟨hprog, -⟩ <;> simp [hprog]
    · rcases hend with ⟨err, -, hsp⟩ | ⟨-, hsp⟩
      · simp [hsp]
      · intro v hv
        rw [hsp, Option.mem_toList, Option.map_eq_some_iff] at hv
        obtain ⟨row, hrow, rfl⟩ := hv
        exact .refill (hread l row hrow)
  | @refill l f h =>
    exact ⟨rfl, EntryMap.policy_submit map l _, by simp [advance, failure],
      List.forall_mem_nil _⟩

/-- A find changes an entry only when it refills it. -/
theorem OfFind.get?_advance (hw : w.OfFind kind) (number : Nat) (listening : Bool)
    (map : EntryMap E) (store : RowStore E) (k : Key) :
    let m := w.advance number listening map store .serve
    (w.refill? k = none → m.map.get? k = map.get? k) ∧
      ∀ f, w.refill? k = some f → map.policy.retains = true →
        m.map.get? k = some ((map.get? k).getD f) := by
  have keep : (w.advance number listening map store .serve).map = map → w.refill? k = none →
      let m := w.advance number listening map store .serve
      (w.refill? k = none → m.map.get? k = map.get? k) ∧
        ∀ f, w.refill? k = some f → map.policy.retains = true →
          m.map.get? k = some ((map.get? k).getD f) := by
    intro hmap hnone
    refine ⟨fun _ => by rw [hmap], fun f hf => ?_⟩
    rw [hnone] at hf
    cases hf
  cases hw with
  | notice h =>
    obtain ⟨hmap, -⟩ := advance_notice number listening map store (c := .serve) h
    exact keep hmap (h.refill?_eq_none k)
  | @readGrid l parts h =>
    refine keep ?_ rfl
    rcases advance_readGrid number listening map store (c := .serve) (k := l) trivial parts
      with ⟨e, -, hm⟩ | hm <;> rw [hm]
  | readStore h =>
    exact keep (advance_readStore number listening map store (c := .serve) trivial h).1 rfl
  | @refill l f h =>
    by_cases hl : l = k
    · subst hl
      refine ⟨fun hnone => by simp [refill?] at hnone, fun g hg hr => ?_⟩
      obtain rfl : f = g := by simpa [refill?] using hg
      have hget := EntryMap.get?_insertIfAbsent hr l l f
      rwa [if_pos rfl] at hget
    · refine ⟨fun _ => EntryMap.get?_submit_of_ne hl _, fun g hg => ?_⟩
      simp [refill?, hl] at hg

end Work

end Moves

/-! ### Finds only -/

structure Browsing (kind : Key → E → Prop) (rows : Table Key E) (s : Tiers E Out L) : Prop where
  rows : s.store.rows = rows
  due : ∀ i w, s.Due i w → w.OfFind kind

section Browsing

variable [Entity E] {kind : Key → E → Prop} {rows : Table Key E} {loses : Prop}

theorem Browsing.step (hread : ∀ l row, rows.get? l = some row → kind l (Entity.stamp l row))
    (s : Tiers E Out L) (e : Event E Out L) (hs : Browsing kind rows s)
    (hp : s.Permits (reading loses) e) : Browsing kind rows (s.step e) := by
  cases e with
  | lose l => exact ⟨hs.rows, hs.due⟩
  | ask client r =>
    refine ⟨by rw [Tiers.step, Tiers.ask_store, hs.rows], fun i w hw => ?_⟩
    rcases (Tiers.due_ask ..).1 hw with hd | ⟨-, ho⟩
    · exact hs.due i w hd
    · exact Work.opening_ofFind hp ho
  | call i c =>
    rcases s.call_cases i c with ⟨-, hcall⟩ | ⟨client, w, hw, hcall⟩
    · rwa [Tiers.step, hcall]
    · obtain rfl : c = .serve := hp w hw
      obtain ⟨hrows, -, hnext, hsp⟩ :=
        (hs.due i w hw).advance i client.listener.isSome s.map (hs.rows ▸ hread)
      rw [Tiers.step, hcall]
      exact ⟨hrows.trans hs.rows, Tiers.due_of_apply hs.due hw.lt hnext hsp⟩

end Browsing

/-! ### Finds without a row -/

/-- Whatever is found from a state on, the grid shows the same under a key, and each find of the
key ends with it. -/
structure Tiers.Shows [Entity E] (climate : Climate E Out) (s : Tiers E Out L) (k : Key)
    (o : Option E) : Prop where
  grid : ∀ events, s.PermitsAll climate events → (s.run events).map.get? k = o
  found : ∀ events client parts rest, Key.derive parts = .ok k →
    s.PermitsAll climate (events ++ .ask client (.find parts) :: rest) →
    let t := s.run (events ++ .ask client (.find parts) :: rest)
    t.Settled → t.result? (s.run events).tasks.length = some (.ok (.entity o))

structure Rowless (loses : Prop) (k : Key) (o : Option E) (s : Tiers E Out L) : Prop where
  row : s.store.rows.get? k = none
  entry : s.map.get? k = o
  kept : loses → o = none
  due : ∀ i w, s.Due i w → w.OfFind fun l _ => l ≠ k

inductive Looking (k : Key) (parts : List KeyPart) (o : Option E) (n : Nat) (s : Tiers E Out L) :
    Prop
  | asked (due : s.Due n (.readGrid k parts))
  | missed (due : s.Due n (.readStore k parts)) (h : o = none)
  | ended (result : s.result? n = some (.ok (.entity o)))

section Runs

variable [Entity E] {loses : Prop} {k : Key} {o : Option E} {n : Nat} {parts : List KeyPart}

theorem Rowless.step (s : Tiers E Out L) (e : Event E Out L) (hs : Rowless loses k o s)
    (hp : s.Permits (reading loses) e) : Rowless loses k o (s.step e) := by
  have browsing : Browsing (fun l _ => l ≠ k) s.store.rows (s.step e) := by
    refine Browsing.step (fun l row hrow hl => ?_) s e ⟨rfl, hs.due⟩ hp
    simp [hl, hs.row] at hrow
  refine ⟨browsing.rows ▸ hs.row, ?_, hs.kept, browsing.due⟩
  cases e with
  | lose l => simp [Tiers.step, hs.entry, hs.kept hp]
  | ask client r => rw [Tiers.step, Tiers.ask_map, hs.entry]
  | call i c =>
    rcases s.call_cases i c with ⟨-, hcall⟩ | ⟨client, w, hw, hcall⟩
    · rw [Tiers.step, hcall, hs.entry]
    · obtain rfl : c = .serve := hp w hw
      have hfind := hs.due i w hw
      have hnone : w.refill? k = none :=
        Option.eq_none_iff_forall_ne_some.2 fun f hf => hfind.of_refill? hf rfl
      rw [Tiers.step, hcall, Tiers.apply_map, (hfind.get?_advance ..).1 hnone, hs.entry]

theorem Looking.step (hk : Key.derive parts = .ok k) (s : Tiers E Out L) (e : Event E Out L)
    (hs : Rowless loses k o s) (h : Looking k parts o n s) (hp : s.Permits (reading loses) e) :
    Looking k parts o n (s.step e) := by
  cases e with
  | lose l =>
    cases h with
    | asked due => exact .asked due
    | missed due h => exact .missed due h
    | ended result => exact .ended result
  | ask client r =>
    cases h with
    | asked due => exact .asked ((Tiers.due_ask ..).2 (.inl due))
    | missed due h => exact .missed ((Tiers.due_ask ..).2 (.inl due)) h
    | ended result => exact .ended (by rwa [Tiers.step, Tiers.result?_ask])
  | call i c =>
    rcases s.call_cases i c with ⟨-, hcall⟩ | ⟨client, w, hw, hcall⟩
    · rwa [Tiers.step, hcall]
    · obtain rfl : c = .serve := hp w hw
      rw [Tiers.step, hcall]
      by_cases hin : n = i
      · subst hin
        cases h with
        | ended result => simp [hw.result?] at result
        | asked due =>
          obtain rfl := hw.unique due
          cases o with
          | none =>
            refine .missed ?_ rfl
            rw [Work.advance_readGrid_miss n _ s.store hs.entry parts]
            exact (Tiers.due_apply hw.lt ..).2 (.inl ⟨rfl, rfl⟩)
          | some e =>
            refine .ended ?_
            rw [Work.advance_readGrid_hit n _ s.store hs.entry parts, Tiers.result?_apply hw.lt,
              if_pos rfl]
            rfl
        | missed due h =>
          obtain rfl := hw.unique due
          refine .ended ?_
          rw [Tiers.result?_apply hw.lt, if_pos rfl, Task.result?,
            Work.progress_readStore_absent n _ s.map hk hs.row, h]
      · cases h with
        | asked due => exact .asked ((Tiers.due_apply hw.lt ..).2 (.inr (.inl ⟨hin, due⟩)))
        | missed due h => exact .missed ((Tiers.due_apply hw.lt ..).2 (.inr (.inl ⟨hin, due⟩))) h
        | ended result => exact .ended (by rwa [Tiers.result?_apply hw.lt, if_neg hin])

omit [Entity E] in
theorem Looking.result {s : Tiers E Out L} (h : Looking k parts o n s) (settled : s.Settled) :
    s.result? n = some (.ok (.entity o)) := by
  cases h with
  | asked due => exact (settled n _ due).elim
  | missed due _ => exact (settled n _ due).elim
  | ended result => exact result

theorem Tiers.permitsAll_append {climate : Climate E Out} {s : Tiers E Out L}
    {as bs : List (Event E Out L)} :
    s.PermitsAll climate (as ++ bs) ↔
      s.PermitsAll climate as ∧ (s.run as).PermitsAll climate bs := by
  induction as generalizing s with
  | nil => simp [PermitsAll, run]
  | cons e rest ih =>
    have h : s.run (e :: rest) = (s.step e).run rest := rfl
    simp only [List.cons_append, PermitsAll, ih, h, and_assoc]

/-- To show something for good it is enough that what holds of the state is kept by every event,
and that so is what holds of a find on its way. -/
theorem Tiers.shows_of_step {climate : Climate E Out} {I : Tiers E Out L → Prop}
    {J : List KeyPart → Nat → Tiers E Out L → Prop}
    (entry : ∀ s, I s → s.map.get? k = o)
    (step : ∀ s e, I s → s.Permits climate e → I (s.step e))
    (asked : ∀ (s : Tiers E Out L) client parts, Key.derive parts = .ok k →
      J parts s.tasks.length (s.step (.ask client (.find parts))))
    (look : ∀ parts n (s : Tiers E Out L) e, Key.derive parts = .ok k → I s → J parts n s →
      s.Permits climate e → J parts n (s.step e))
    (result : ∀ parts n s, J parts n s → s.Settled → s.result? n = some (.ok (.entity o)))
    {s : Tiers E Out L} (h : I s) : s.Shows climate k o := by
  refine ⟨fun events hp => entry _ (run_of_step step h hp), ?_⟩
  intro events client parts rest hk hp t settled
  obtain ⟨hbefore, hask, hrest⟩ := permitsAll_append.1 hp
  have before := run_of_step step h hbefore
  have ended := run_of_step (P := fun t => I t ∧ J parts (s.run events).tasks.length t)
    (fun t e h hp => ⟨step t e h.1 hp, look parts _ t e hk h.1 h.2 hp⟩)
    ⟨step _ _ before hask, asked _ client parts hk⟩ hrest
  have ht : t = ((s.run events).step (.ask client (.find parts))).run rest := s.run_append ..
  exact ht ▸ result parts _ _ ended.2 (ht ▸ settled)

theorem Rowless.shows {s : Tiers E Out L} (h : Rowless loses k o s) :
    s.Shows (reading loses) k o := by
  refine Tiers.shows_of_step (J := fun parts n => Looking k parts o n) (fun s hs => hs.entry)
    Rowless.step (fun s client parts hk => ?_) (fun parts n s e hk => Looking.step hk s e)
    (fun parts n s hs => hs.result) h
  exact .asked ((Tiers.due_ask ..).2 (.inr ⟨rfl, Request.opening_find hk⟩))

end Runs

/-! ### A removal among finds -/

/-- What the grid holds for a row once it has taken the removal of it: nothing, or what a late
refill brought back. -/
structure Taken [Entity E] (loses : Prop) (k : Key) (row : E) (n : Nat) (s : Tiers E Out L)
    (h : List (Called E Out)) : Prop where
  made : ∃ x ∈ h, x.task = n
  gone : lateRefill k n h = false → s.map.get? k = none
  back : lateRefill k n h = true → ¬loses → s.map.policy.retains = true →
    s.map.get? k = some (Entity.stamp k row)

inductive RemovalStage [Entity E] (loses : Prop) (k : Key) (e row : E) (n : Nat)
    (s : Tiers E Out L) (h : List (Called E Out)) : Prop
  | asked (due : s.Due n (.removeGrid k e)) (filed : s.store.rows.get? k = some row)
    (unmade : ∀ x ∈ h, x.task ≠ n)
  | taken (due : s.Due n (.removeStore k e)) (filed : s.store.rows.get? k = some row)
    (grid : Taken loses k row n s h)
  | ended (result : s.result? n = some (.ok (.applied true))) (erased : s.store.rows.get? k = none)
    (grid : Taken loses k row n s h)

/-- What holds while a row is removed: besides the removal there are finds, and a refill under the
key of the row has the row. -/
structure Removing [Entity E] (loses : Prop) (k : Key) (e row : E) (n : Nat) (s : Tiers E Out L)
    (h : List (Called E Out)) : Prop where
  stage : RemovalStage loses k e row n s h
  due : ∀ i w, s.Due i w → i ≠ n → w.OfFind fun l f => l = k → f = Entity.stamp k row

section Removal

variable [Entity E] {loses : Prop} {k : Key} {e row : E} {n : Nat} {s t : Tiers E Out L}
  {h : List (Called E Out)}

theorem Taken.congr (ht : Taken loses k row n s h) (hmap : t.map = s.map) :
    Taken loses k row n t h :=
  ⟨ht.made, hmap ▸ ht.gone, hmap ▸ ht.back⟩

theorem Taken.lose (ht : Taken loses k row n s h) (hl : loses) (l : Key) :
    Taken loses k row n (s.step (.lose l)) h := by
  refine ⟨ht.made, fun hlate => ?_, fun _ hno => absurd hl hno⟩
  simp [Tiers.step, ht.gone hlate]

theorem Taken.append_find (ht : Taken loses k row n s h) {i : Nat} {w : Work E Out}
    (hw : w.OfFind fun l f => l = k → f = Entity.stamp k row) (listening : Bool)
    (hmap : t.map = (w.advance i listening s.map s.store .serve).map)
    (hpolicy : t.map.policy = s.map.policy) :
    Taken loses k row n t (h ++ [⟨i, w, .serve⟩]) := by
  obtain ⟨hkeep, hrefill⟩ := hw.get?_advance i listening s.map s.store k
  have hlate := lateRefill_append (k := k) ht.made ⟨i, w, .serve⟩
  refine ⟨?_, fun hnone => ?_, fun hsome hno hr => ?_⟩
  · obtain ⟨x, hx, hxn⟩ := ht.made
    exact ⟨x, List.mem_append_left _ hx, hxn⟩
  · rw [hlate, Bool.or_eq_false_iff] at hnone
    rw [hmap, hkeep (by simpa using hnone.2), ht.gone hnone.1]
  · rw [hlate] at hsome
    rw [hpolicy] at hr
    rw [hmap]
    cases hf : w.refill? k with
    | none =>
      rw [hkeep hf]
      exact ht.back (by simpa [hf] using hsome) hno hr
    | some f =>
      obtain rfl : f = Entity.stamp k row := hw.of_refill? hf rfl
      rw [hrefill _ hf hr]
      cases hbefore : lateRefill k n h with
      | false => simp [ht.gone hbefore]
      | true => simp [ht.back hbefore hno hr]

theorem Removing.ask (hs : Removing loses k e row n s h) {client : Client L} {r : Request E Out}
    (hr : (reading loses).asks r) : Removing loses k e row n (s.ask client r).2 h := by
  refine ⟨?_, fun i w hw hin => ?_⟩
  · cases hs.stage with
    | asked due filed unmade =>
      exact .asked ((Tiers.due_ask ..).2 (.inl due)) (by rwa [Tiers.ask_store]) unmade
    | taken due filed grid =>
      exact .taken ((Tiers.due_ask ..).2 (.inl due)) (by rwa [Tiers.ask_store])
        (grid.congr (Tiers.ask_map ..))
    | ended result erased grid =>
      exact .ended (by rwa [Tiers.result?_ask]) (by rwa [Tiers.ask_store])
        (grid.congr (Tiers.ask_map ..))
  · rcases (Tiers.due_ask ..).1 hw with hd | ⟨-, ho⟩
    · exact hs.due i w hd hin
    · exact Work.opening_ofFind hr ho

theorem Removing.call_find (hs : Removing loses k e row n s h) {client : Client L} {i : Nat}
    {w : Work E Out} (hw : s.Due i w) (hin : i ≠ n) :
    Removing loses k e row n
      (s.apply i client (w.advance i client.listener.isSome s.map s.store .serve))
      (h ++ [⟨i, w, .serve⟩]) := by
  have hfind := hs.due i w hw hin
  have hfiled : s.store.rows.get? k = some row ∨ s.store.rows.get? k = none := by
    cases hs.stage with
    | asked _ filed | taken _ filed => exact .inl filed
    | ended _ erased => exact .inr erased
  have hread : ∀ l f, s.store.rows.get? l = some f → l = k →
      Entity.stamp l f = Entity.stamp k row := by
    intro l f hf hl
    subst hl
    rcases hfiled with hrow | hrow
    · rw [hrow] at hf
      cases hf
      rfl
    · simp [hrow] at hf
  obtain ⟨hrows, hpolicy, hnext, hsp⟩ := hfind.advance i client.listener.isSome s.map hread
  have grid : Taken loses k row n s h → Taken loses k row n _ _ := fun ht =>
    ht.append_find (t := s.apply i client _) hfind client.listener.isSome rfl hpolicy
  refine ⟨?_, fun j v hv hjn => ?_⟩
  · cases hs.stage with
    | asked due filed unmade =>
      refine .asked ((Tiers.due_apply hw.lt ..).2 (.inr (.inl ⟨hin.symm, due⟩))) ?_ ?_
      · rwa [Tiers.apply_store, hrows]
      · intro x hx
        rcases List.mem_append.1 hx with hx | hx
        · exact unmade x hx
        · rw [List.mem_singleton.1 hx]
          exact hin
    | taken due filed ht =>
      refine .taken ((Tiers.due_apply hw.lt ..).2 (.inr (.inl ⟨hin.symm, due⟩))) ?_ (grid ht)
      rwa [Tiers.apply_store, hrows]
    | ended result erased ht =>
      refine .ended ?_ ?_ (grid ht)
      · rwa [Tiers.result?_apply hw.lt, if_neg hin.symm]
      · rwa [Tiers.apply_store, hrows]
  · rcases (Tiers.due_apply hw.lt j v).1 hv with ⟨-, hn⟩ | ⟨-, hd⟩ | ⟨-, hmem⟩
    · exact hnext v hn
    · exact hs.due j v hd hjn
    · exact hsp v (List.mem_of_getElem? hmem)

theorem Removing.call_own (hk : Entity.key e = .ok k) (hs : Removing loses k e row n s h)
    {client : Client L} {w : Work E Out} (hw : s.Due n w) :
    Removing loses k e row n
      (s.apply n client (w.advance n client.listener.isSome s.map s.store .serve))
      (h ++ [⟨n, w, .serve⟩]) := by
  have others : (∀ v ∈ (w.advance n client.listener.isSome s.map s.store .serve).spawned,
      v.IsNotice) → ∀ j v, (s.apply n client
        (w.advance n client.listener.isSome s.map s.store .serve)).Due j v → j ≠ n →
          v.OfFind fun l f => l = k → f = Entity.stamp k row := by
    intro hsp j v hv hjn
    rcases (Tiers.due_apply hw.lt j v).1 hv with ⟨hj, -⟩ | ⟨-, hd⟩ | ⟨-, hmem⟩
    · exact absurd hj hjn
    · exact hs.due j v hd hjn
    · exact .notice (hsp v (List.mem_of_getElem? hmem))
  have made : ∃ x ∈ h ++ [⟨n, w, .serve⟩], x.task = n :=
    ⟨⟨n, w, .serve⟩, List.mem_append_right _ (.head _), rfl⟩
  cases hs.stage with
  | ended result erased grid => simp [hw.result?] at result
  | asked due filed unmade =>
    obtain rfl := hw.unique due
    refine ⟨.taken ((Tiers.due_apply hw.lt ..).2 (.inl ⟨rfl, rfl⟩)) filed ⟨made, ?_, ?_⟩,
      others fun v hv => (nomatch hv)⟩
    · intro _
      exact (s.map.get?_lose k k).trans (if_pos rfl)
    · intro hlate
      rw [lateRefill_of_first unmade rfl] at hlate
      cases hlate
  | taken due filed grid =>
    obtain rfl := hw.unique due
    have hprog : ((Work.removeStore k e : Work E Out).advance n client.listener.isSome s.map s.store
        .serve).progress = .done (.ok (.applied true)) := by
      simp [Work.advance, Work.failure, RowStore.remove, RowStore.keyOf, hk, Work.afterStoreWrite,
        Table.contains, filed]
    obtain ⟨hmap, hsp, hend⟩ :=
      @Work.advance_removeStore E Out _ n client.listener.isSome s.map s.store .serve k e hk
    have hrows := (hend.resolve_right (by simp [hprog])).2
    refine ⟨.ended ?_ ?_ ⟨made, fun hlate => ?_, fun hlate hno hr => ?_⟩, others hsp⟩
    · rw [Tiers.result?_apply hw.lt, if_pos rfl, Task.result?, hprog]
    · rw [Tiers.apply_store, hrows, Table.get?_erase, if_pos rfl]
    · rw [lateRefill_append grid.made, Bool.or_eq_false_iff] at hlate
      rw [Tiers.apply_map, hmap, grid.gone hlate.1]
    · rw [lateRefill_append grid.made] at hlate
      rw [Tiers.apply_map, hmap] at hr ⊢
      exact grid.back (by simpa [Work.refill?] using hlate) hno hr

theorem Removing.step (hk : Entity.key e = .ok k) (s : Tiers E Out L) (h : List (Called E Out))
    (ev : Event E Out L) (hs : Removing loses k e row n s h) (hp : s.Permits (reading loses) ev) :
    Removing loses k e row n (s.step ev) (h ++ s.made ev) := by
  cases ev with
  | lose l =>
    rw [Tiers.made, List.append_nil]
    refine ⟨?_, hs.due⟩
    cases hs.stage with
    | asked due filed unmade => exact .asked due filed unmade
    | taken due filed grid => exact .taken due filed (grid.lose hp l)
    | ended result erased grid => exact .ended result erased (grid.lose hp l)
  | ask client r =>
    rw [Tiers.made, List.append_nil]
    exact hs.ask hp
  | call i c =>
    rcases s.call_cases i c with ⟨hno, hcall⟩ | ⟨client, w, hw, hcall⟩
    · rwa [Tiers.made_of_not_due hno, List.append_nil, Tiers.step, hcall]
    · obtain rfl : c = .serve := hp w hw
      rw [Tiers.made_of_due hw, Tiers.step, hcall]
      by_cases hin : i = n
      · subst hin
        exact hs.call_own hk hw
      · exact hs.call_find hw hin

/-- Among finds, a removal takes a row out of the store and its entry out of the grid, unless a
refill for the key comes after the grid's part of the removal. Such a refill brings the row back,
and finds have it from then on. -/
theorem Tiers.removed_unless_late_refill {s₀ : Tiers E Out L} (settled : s₀.Settled)
    (hk : Entity.key e = .ok k) (filed : s₀.store.rows.get? k = some row)
    {before : List (Event E Out L)} (hbefore : s₀.PermitsAll (reading loses) before)
    (client : Client L) {after : List (Event E Out L)}
    (hafter : ((s₀.run before).ask client (.remove e)).2.PermitsAll (reading loses) after) :
    let s := ((s₀.run before).ask client (.remove e)).2
    let n := (s₀.run before).tasks.length
    let late := lateRefill k n (s.calls after)
    let t := s.run after
    t.Settled →
      t.result? n = some (.ok (.applied true)) ∧ t.store.rows.get? k = none ∧
        (late = false → t.Shows (reading loses) k none) ∧
          (late = true → ¬loses → t.map.policy.retains = true →
            t.Shows (reading loses) k (some (Entity.stamp k row))) := by
  intro s n late t ended
  -- Finds that were asked for before the removal may still refill, but with the row that is filed.
  have found : Browsing (fun l f => l = k → f = Entity.stamp k row) s₀.store.rows
      (s₀.run before) := by
    refine run_of_step (Browsing.step fun l f hf hl => ?_)
      ⟨rfl, fun i w hw => .notice (settled i w hw)⟩ hbefore
    subst hl
    rw [filed] at hf
    cases hf
    rfl
  have asked : Removing loses k e row n s [] := by
    refine ⟨.asked ?_ ?_ (fun x hx => (nomatch hx)), fun i w hw hin => ?_⟩
    · exact (due_ask ..).2 (.inr ⟨rfl, Request.opening_remove hk⟩)
    · rw [ask_store, found.rows, filed]
    · exact found.due i w (((due_ask ..).1 hw).resolve_right fun h => hin h.1)
  have removing : Removing loses k e row n t (s.calls after) :=
    run_calls_of_step (Removing.step hk) asked hafter
  cases removing.stage with
  | asked due | taken due => exact (ended n _ due).elim
  | ended result erased grid =>
    have rowless : ∀ o, t.map.get? k = o → (loses → o = none) →
        t.Shows (reading loses) k o := fun o entry kept =>
      Rowless.shows ⟨erased, entry, kept, fun i w hw => .notice (ended i w hw)⟩
    refine ⟨result, erased, fun hlate => ?_, fun hlate hno hr => ?_⟩
    · exact rowless none (grid.gone hlate) fun _ => rfl
    · exact rowless _ (grid.back hlate hno hr) fun hl => absurd hl hno

end Removal

namespace Crossing

open Item

def seeded : Tiers Item Unit Unit :=
  Tiers.create ⟨"items", .standard, ∅⟩ ((RowStore.empty : RowStore Item).seed [sample "old"]).2

def before : List (Event Item Unit Unit) :=
  [.ask .first (.find [.int 7]), .call 0 .serve, .call 0 .serve]

def asked : Tiers Item Unit Unit :=
  ((seeded.run before).ask .first (.remove (sample "old"))).2

def refillFirst : List (Event Item Unit Unit) :=
  [.call 1 .serve, .call 2 .serve, .call 2 .serve]

def refillLast : List (Event Item Unit Unit) :=
  [.call 2 .serve, .call 2 .serve, .call 1 .serve]

def again : List (Event Item Unit Unit) :=
  [.ask .first (.find [.int 7]), .call 3 .serve]

open Tiers in
theorem gone_or_back :
    (asked.run refillFirst).Shows (reading False) sampleKey none ∧
      (asked.run refillLast).Shows (reading False) sampleKey (some (stampedSample "old")) := by
  have hbefore : seeded.PermitsAll (reading False) before :=
    ⟨trivial, permits_call ⟨_, rfl⟩ rfl, permits_call ⟨_, rfl⟩ rfl, trivial⟩
  have hfirst : asked.PermitsAll (reading False) refillFirst :=
    ⟨permits_call ⟨_, rfl⟩ rfl, permits_call ⟨_, rfl⟩ rfl, permits_call ⟨_, rfl⟩ rfl, trivial⟩
  have hlast : asked.PermitsAll (reading False) refillLast :=
    ⟨permits_call ⟨_, rfl⟩ rfl, permits_call ⟨_, rfl⟩ rfl, permits_call ⟨_, rfl⟩ rfl, trivial⟩
  have quiet : seeded.Settled := settled_of_isQuiet rfl
  have filed : seeded.store.rows.get? sampleKey = some (sample "old") := rfl
  have hkey : Entity.key (sample "old") = .ok sampleKey := rfl
  obtain ⟨-, -, gone, -⟩ := removed_unless_late_refill quiet hkey filed hbefore .first hfirst
    (settled_of_isQuiet rfl)
  obtain ⟨-, -, -, back⟩ := removed_unless_late_refill quiet hkey filed hbefore .first hlast
    (settled_of_isQuiet rfl)
  exact ⟨gone rfl, back rfl not_false rfl⟩

/-- The removal came to its end, and the next find still has the row. -/
theorem found_after_removal :
    (asked.run refillLast).isQuiet = true ∧
      (asked.run refillLast).result? 2 = some (.ok (.applied true)) ∧
      (asked.run refillLast).store.rows.get? sampleKey = none ∧
      (asked.run refillLast).map.get? sampleKey = some (stampedSample "old") ∧
      ((asked.run refillLast).run again).result? 3 =
        some (.ok (.entity (some (stampedSample "old")))) :=
  ⟨rfl, rfl, rfl, rfl, rfl⟩

end Crossing

end CacheAside
