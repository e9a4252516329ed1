import CacheAside.Proofs.Access.Alone
import CacheAside.Proofs.Access.Loads
import CacheAside.Proofs.Access.StoreCalls
/-!
Each record is read through once. While the grid serves every call and loses nothing, a key has an
entry if and only if something has filled it since it was last removed: a save, a find that had the
record from the store, or a load of a span that has the key while the store had the record. So a
find calls the store if and only if nothing has, whatever became of the store's part of the writes.
-/

set_option autoImplicit false

namespace CacheAside

variable {E Out L : Type}

/-- The grid serves every call and loses nothing; only what the store is to write may fail. -/
def healthy : Climate E Out where
  asks _ := False
  meets
    | .saveStore .., _ | .removeStore .., _ | .notify .., _ => True
    | _, c => c = .serve
  loses := False

theorem healthy_sheltered : (healthy : Climate E Out).Sheltered :=
  ⟨fun _ => id, id⟩

theorem healthy_serves (w : Work E Out) (c : Conduct E) (hw : w.IsLoad) (hc : healthy.meets w c) :
    c = .serve := by
  cases w with
  | scan | feed => exact hc
  | _ => exact hw.elim

/-! ### What operations did -/

def gaveRecord : Option (Result (Answer E Out)) → Bool
  | some (.ok (.entity (some _))) => true
  | _ => false

/-- One operation from its beginning until nothing is left to do. -/
structure Visit (E Out L : Type) where
  client : Client L
  op : Operation E
  rows : Table Key E
  calls : List (Called E Out)
  result? : Option (Result (Answer E Out))

namespace Visit

def callsStore (x : Visit E Out L) : Bool :=
  x.calls.any fun c => c.work.point.isStore

def found (x : Visit E Out L) : Bool :=
  gaveRecord x.result?

variable [Entity E]

def key? (x : Visit E Out L) : Option Key :=
  match x.op with
  | .find parts => (Key.derive parts).toOption
  | .save e | .remove e => (Entity.key e).toOption
  | .load .. => none

def removes (k : Key) (x : Visit E Out L) : Bool :=
  match x.op with
  | .remove _ => x.key? = some k
  | _ => false

/-- A save of the key, a find of the key that had the record from the store, or a load of a span
with the key while the store had the record. -/
def fills (k : Key) (x : Visit E Out L) : Bool :=
  match x.op with
  | .save _ => x.key? = some k
  | .find _ => x.key? = some k && x.callsStore && x.found
  | .load span _ => span.contains k.token && x.rows.contains k
  | .remove _ => false

def isSpared (i : Nat) (x : Visit E Out L) : Bool :=
  match x.op with
  | .find _ => x.client.meter = i && x.key?.isSome && !x.callsStore
  | _ => false

/-- What was done since the key was last removed, the latest first. -/
def since (k : Key) (past : List (Visit E Out L)) : List (Visit E Out L) :=
  past.takeWhile fun x => !x.removes k

end Visit

namespace Tiers

variable [Entity E]

def visit (s : Tiers E Out L) (client : Client L) (op : Operation E)
    (events : List (Event E Out L)) : Visit E Out L :=
  let begun := s.begin client op
  ⟨client, op, s.store.rows, begun.calls events, (begun.run events).result? s.tasks.length⟩

/-- The states that operations one after the other lead to, each with what was done on the way, the
latest first. -/
inductive Visits (climate : Climate E Out) (s₀ : Tiers E Out L) :
    Tiers E Out L → List (Visit E Out L) → Prop
  | start : Visits climate s₀ s₀ []
  | next {s : Tiers E Out L} {past : List (Visit E Out L)} (client : Client L) (op : Operation E)
    (events : List (Event E Out L)) (before : Visits climate s₀ s past)
    (permitted : (s.begin client op).PermitsAll climate events)
    (settled : ((s.begin client op).run events).Settled) :
    Visits climate s₀ ((s.begin client op).run events) (s.visit client op events :: past)

end Tiers

/-! ### What every call keeps -/

theorem Write.policy_onGrid (x : Write) (map : EntryMap E) (k : Key) (e : E) :
    (x.onGrid map k e).policy = map.policy := by
  cases x with
  | save => exact map.policy_submit k _
  | remove => rfl

namespace Work

variable [Entity E] (number : Nat) (listening : Bool) (map : EntryMap E) {store : RowStore E}
  (c : Conduct E) (w : Work E Out)

theorem keeps_advance (built : store.Built) :
    let m := w.advance number listening map store c
    m.map.policy = map.policy ∧ m.store.Built := by
  have onGrid (x : Write) (k : Key) (e : E) :
      let m := (x.gridWork k e : Work E Out).advance number listening map store c
      m.map.policy = map.policy ∧ m.store.Built := by
    obtain ⟨hstore, -, -, ⟨-, hmap, -⟩ | ⟨err, -, hmap, -⟩⟩ :=
      x.advance_gridWork Out number listening map store c k e
    · exact ⟨by rw [hmap, x.policy_onGrid], by rwa [hstore]⟩
    · exact ⟨by rw [hmap], by rwa [hstore]⟩
  have onStore (x : Write) (k : Key) (e : E) :
      let m := (x.storeWork k e : Work E Out).advance number listening map store c
      m.map.policy = map.policy ∧ m.store.Built := by
    obtain ⟨hmap, hstore, -⟩ := x.advance_storeWork Out number listening map store c k e
    refine ⟨by rw [hmap], ?_⟩
    rw [hstore]
    cases c with
    | serve | answer =>
      cases x with
      | save => exact built.save e
      | remove => exact built.remove e
    | refuse | fail | crash => exact built
  cases w with
  | readGrid k parts =>
    obtain ⟨hmap, hstore, -⟩ := Find.advance_readGrid Out number listening map store c k parts
    exact ⟨by rw [hmap], by rwa [hstore]⟩
  | readStore k parts =>
    refine ⟨by rw [(Find.advance_readStore Out number listening map store c k parts).1], ?_⟩
    have read (r : Except Fault (Option E) × RowStore E) (hr : r.2.Built) :
        (afterStoreRead map k r : Move E Out).store.Built := by
      rwa [(Find.afterStoreRead_eq Out map k r).2.1]
    cases c with
    | serve | refuse => exact read _ (built.find parts)
    | answer => exact read _ built
    | fail | crash => exact built
  | refill k e =>
    obtain ⟨hmap | hmap, hstore, -⟩ :=
      @advance_refill E Out _ number listening map store c k e
    · exact ⟨by rw [hmap], by rwa [hstore]⟩
    · exact ⟨by rw [hmap, EntryMap.policy_submit], by rwa [hstore]⟩
  | saveGrid k e => exact onGrid .save k e
  | removeGrid k e => exact onGrid .remove k e
  | saveStore k e => exact onStore .save k e
  | removeStore k e => exact onStore .remove k e
  | execute k p =>
    have hpolicy := map.policy_submit k p
    cases c with
    | fail | crash => exact ⟨rfl, built⟩
    | serve | refuse | answer =>
      simp only [advance, failure]
      split <;> simp_all
  | notify => exact ⟨rfl, built⟩
  | scan span =>
    cases c with
    | fail | crash => exact ⟨rfl, built⟩
    | serve | refuse | answer => exact ⟨rfl, built.load⟩
  | feed span rest count =>
    obtain ⟨hstore, -, ⟨-, hmap⟩ | ⟨row, left, key, e, -, -, -, hmap⟩⟩ :=
      @advance_feed E Out _ number listening map store c span rest count
    · exact ⟨by rw [hmap], by rwa [hstore]⟩
    · exact ⟨by rw [hmap, EntryMap.policy_put], by rwa [hstore]⟩

end Work

namespace Tiers

variable [Entity E] {s : Tiers E Out L}

theorem keeps_run (built : s.store.Built) (events : List (Event E Out L)) :
    (s.run events).map.policy = s.map.policy ∧ (s.run events).store.Built ∧
      (s.run events).meters.length = s.meters.length := by
  induction events generalizing s with
  | nil => exact ⟨rfl, built, rfl⟩
  | cons ev rest ih =>
    have hstep : (s.step ev).map.policy = s.map.policy ∧ (s.step ev).store.Built := by
      cases ev with
      | ask client r =>
        rw [step, ask_map, ask_store]
        exact ⟨rfl, built⟩
      | lose k => exact ⟨rfl, built⟩
      | call i c =>
        rcases s.call_dueFor_cases i c with ⟨-, hcall⟩ | ⟨client, w, hw⟩
        · rw [step, hcall]
          exact ⟨rfl, built⟩
        · rw [step, call_of_dueFor hw]
          exact w.keeps_advance i client.listener.isSome s.map c built
    obtain ⟨hpolicy, hbuilt, hlength⟩ := ih hstep.2
    exact ⟨hpolicy.trans hstep.1, hbuilt, hlength.trans (s.length_meters_step ev)⟩

end Tiers

/-! ### What an operation leaves -/

namespace Work

variable [Entity E] {map : EntryMap E} {store : RowStore E} {k : Key} {parts : List KeyPart} {e : E}
  {u : Upshot E Out}

theorem count_hit_eq_zero (number : Nat) (listening : Bool) {c : Conduct E} {w : Work E Out}
    (h : w.gained map store c = []) :
    (w.advance number listening map store c).signals.count .hit = 0 := by
  have hcount := (w.signals_advance number listening map store c).count_eq .hit
  have howed : w.owed.count .hit = 0 := by cases w <;> rfl
  rw [h, List.append_nil, List.count_append, howed] at hcount
  omega

theorem makes_serve {w : Work E Out} {m : Move E Out} (served : ∀ c, healthy.meets w c → c = .serve)
    (hm : ∀ number listening, w.advance number listening map store .serve = m) (m' : Move E Out)
    (makes : w.Makes healthy map store m') : m' = m := by
  obtain ⟨number, listening, c, hc, rfl⟩ := makes
  rw [served c hc, hm]

/-- A find has its entity from the grid, or from the store and then fills the grid. -/
theorem ComesTo.find_cases (h : (readGrid k parts : Work E Out).ComesTo healthy map store u)
    (hk : Key.derive parts = .ok k) :
    (∃ e, map.get? k = some e ∧
        u = ⟨[.gridGet], [.gridGet, .hit, .find], map, store, .ok (.entity (some e))⟩) ∨
      map.get? k = none ∧ (store.rows.get? k = none ∧
          u = ⟨[.gridGet, .storeFind], [.gridGet, .find], map, (store.find parts).2,
            .ok (.entity none)⟩ ∨
        ∃ e, store.rows.get? k = some e ∧
          u = ⟨[.gridGet, .storeFind, .gridSubmit], [.gridGet, .find, .putAsync],
            (map.submit k (.insertIfAbsent (Entity.stamp k e))).2, (store.find parts).2,
            .ok (.entity (some (Entity.stamp k e)))⟩) := by
  cases hget : map.get? k with
  | some e =>
    have hm (n : Nat) (b : Bool) : (readGrid k parts : Work E Out).advance n b map store .serve =
        ⟨map, store, .done (.ok (.entity (some e))), [.gridGet, .hit, .find], [], none⟩ := by
      simp [advance, readAnswer, hget]
    exact .inl ⟨e, rfl, h.eq_of_done (makes_serve (fun _ => id) hm) rfl (List.forall_mem_nil _)⟩
  | none =>
    have hm (n : Nat) (b : Bool) : (readGrid k parts : Work E Out).advance n b map store .serve =
        ⟨map, store, .next (.readStore k parts), [.gridGet], [], none⟩ := by
      simp [advance, readAnswer, hget]
    obtain ⟨u, hu, rfl⟩ := h.exists_next (makes_serve (fun _ => id) hm) rfl
    refine .inr ⟨rfl, ?_⟩
    cases hrow : store.rows.get? k with
    | none =>
      have hm (n : Nat) (b : Bool) :
          (readStore k parts : Work E Out).advance n b map store .serve =
            ⟨map, (store.find parts).2, .done (.ok (.entity none)), [.find], [], none⟩ := by
        simp [advance, failure, RowStore.find, RowStore.peek, hk, hrow, afterStoreRead]
      rw [hu.eq_of_done (makes_serve (fun _ => id) hm) rfl (List.forall_mem_nil _)]
      exact .inl ⟨rfl, rfl⟩
    | some e =>
      have hm (n : Nat) (b : Bool) :
          (readStore k parts : Work E Out).advance n b map store .serve =
            ⟨map, (store.find parts).2, .done (.ok (.entity (some (Entity.stamp k e)))), [.find],
              [.refill k (Entity.stamp k e)], none⟩ := by
        simp [advance, failure, RowStore.find, RowStore.peek, hk, hrow, afterStoreRead]
      obtain ⟨filled, hfilled, rfl⟩ := hu.exists_aside (makes_serve (fun _ => id) hm) rfl rfl id
      rw [hfilled.eq_of_done (makes_serve (fun _ => id) fun _ _ => rfl) rfl (List.forall_mem_nil _)]
      exact .inr ⟨e, rfl, rfl⟩

theorem ComesTo.storeWork (x : Write)
    (h : (x.storeWork k e : Work E Out).ComesTo healthy map store u) :
    u.map = map ∧ u.signals.count .hit = 0 := by
  have law (m : Move E Out) (makes : (x.storeWork k e).Makes healthy map store m) :
      m.map = map ∧ m.signals.count .hit = 0 ∧ (∀ v, m.progress ≠ .next v) ∧
        ∀ v ∈ m.spawned, v.IsNotice := by
    obtain ⟨number, listening, c, -, rfl⟩ := makes
    obtain ⟨hmap, -, -, hprog, hsp⟩ := x.advance_storeWork Out number listening map store c k e
    refine ⟨hmap, count_hit_eq_zero number listening (by cases x <;> rfl), by simp [hprog], ?_⟩
    rw [hsp]
    split <;> simp [IsNotice]
  cases h with
  | done makes => exact ⟨(law _ makes).1, (law _ makes).2.1⟩
  | next makes goes => exact absurd goes ((law _ makes).2.2.1 _)
  | aside makes _ starts works =>
    exact absurd ((law _ makes).2.2.2 _ (by simp [starts])) works

theorem ComesTo.write (x : Write) (h : (x.gridWork k e : Work E Out).ComesTo healthy map store u) :
    u.map = x.onGrid map k e ∧ u.signals.count .hit = 0 := by
  have served (c : Conduct E) (hc : healthy.meets (x.gridWork k e : Work E Out) c) :
      c = .serve := by
    cases x <;> exact hc
  have hm (n : Nat) (b : Bool) : (x.gridWork k e : Work E Out).advance n b map store .serve =
      (x.gridWork k e).advance 0 false map store .serve := by
    cases x <;> rfl
  have hgained : (x.gridWork k e : Work E Out).gained map store .serve = [] := by cases x <;> rfl
  have hgrid := count_hit_eq_zero 0 false hgained
  obtain ⟨-, -, -, ⟨-, hmap, hprog⟩ | ⟨err, herr, -⟩⟩ :=
    x.advance_gridWork Out 0 false map store .serve k e
  · obtain ⟨u, hu, rfl⟩ := h.exists_next (makes_serve served hm) hprog
    obtain ⟨honStore, hstore⟩ := hu.storeWork
    exact ⟨honStore.trans hmap, by rw [List.count_append, hgrid, hstore]⟩
  · cases herr

end Work

namespace Tiers

variable [Entity E] {s : Tiers E Out L} {client : Client L} {op : Operation E}
  {events : List (Event E Out L)} {k : Key} {parts : List KeyPart} {e : E}

structure Leaves (x : Visit E Out L) (s t : Tiers E Out L) : Prop where
  entries : ∀ k, (t.map.get? k).isSome =
    (!x.removes k && (x.fills k || (s.map.get? k).isSome))
  hits : ∀ i < s.meters.length, (t.meter i).count .hit =
    (s.meter i).count .hit + .ofNat (if x.isSpared i then 1 else 0)

theorem count_hit_ask (s : Tiers E Out L) (client : Client L) (r : Request E Out) {i : Nat}
    (hi : i < s.meters.length) :
    ((s.ask client r).2.meter i).count .hit = (s.meter i).count .hit := by
  have hderived : r.derivations.count .hit = 0 := by
    cases r with
    | find | refill | load => rfl
    | save e | remove e | execute e =>
      simp only [Request.derivations]
      split <;> rfl
  have hcount := s.meter_count hi client.meter r.derivations .hit
  rw [hderived, ite_self] at hcount
  rw [ask_snd]
  cases r.opening <;> exact hcount.trans (UInt64.add_zero _)

omit [Entity E] in
theorem any_pointsOf (h : List (Called E Out)) :
    (h.any fun c => c.work.point.isStore) = (pointsOf h).any CallPoint.isStore := by
  induction h with
  | nil => rfl
  | cons c rest ih =>
    obtain ⟨i, v, c⟩ := c
    by_cases hv : v.IsNotice
    · rw [pointsOf_cons_notice hv, List.any_cons, ih, (v.point_eq_listener_iff).2 hv]
      rfl
    · rw [pointsOf_cons hv, List.any_cons, List.any_cons, ih]

theorem reached_of_ask (settled : s.Settled) {r : Request E Out} {w : Work E Out}
    (hr : r.opening = .ok w) (works : ¬ w.IsNotice)
    (permitted : (s.ask client r).2.PermitsAll healthy events)
    (finished : ((s.ask client r).2.run events).Settled) :
    ∃ u, w.ComesTo healthy s.map s.store u ∧
      Reached client s.tasks.length u (s.ask client r).2 ((s.ask client r).2.run events)
        ((s.ask client r).2.calls events) := by
  have alone : (s.ask client r).2.Alone s.tasks.length w := .ask settled hr
  obtain ⟨u, hu, reached⟩ :=
    alone.reached_run healthy_sheltered (dueFor_ask_self hr) works permitted finished
  rw [ask_map, ask_store] at hu
  exact ⟨u, hu, reached⟩

theorem count_hit_of_reached {r : Request E Out} {u : Upshot E Out} {t : Tiers E Out L} {n : Nat}
    {h : List (Called E Out)} (reached : Reached client n u (s.ask client r).2 t h) {i : Nat}
    (hi : i < s.meters.length) : (t.meter i).count .hit =
      (s.meter i).count .hit + .ofNat (if client.meter = i then u.signals.count .hit else 0) := by
  have hlength := s.length_meters_step (.ask client r)
  rw [← s.count_hit_ask client r hi]
  exact reached.counts i (by rwa [← hlength] at hi) .hit

theorem Leaves.of_find (settled : s.Settled) (retains : s.map.policy.retains = true)
    (hk : Key.derive parts = .ok k)
    (permitted : (s.begin client (.find parts)).PermitsAll healthy events)
    (finished : ((s.begin client (.find parts)).run events).Settled) :
    let x := s.visit client (.find parts) events
    let t := (s.begin client (.find parts)).run events
    Leaves x s t ∧ x.callsStore = (s.map.get? k).isNone ∧ (x.found = false → t.map = s.map) ∧
      t.store = if x.callsStore then (s.store.find parts).2 else s.store := by
  intro x t
  obtain ⟨u, hu, reached⟩ := reached_of_ask settled (Request.opening_find hk) id permitted finished
  have hkey : x.key? = some k := by simp [x, visit, Visit.key?, hk, Except.toOption]
  have hcalls : x.callsStore = u.points.any CallPoint.isStore := by
    rw [← reached.points]
    exact any_pointsOf x.calls
  have hfound : x.found = gaveRecord (some u.result) := congrArg gaveRecord reached.result
  have hmap : t.map = u.map := reached.map
  have hstore : t.store = u.store := reached.store
  have hfills (l : Key) : x.fills l = (k = l && x.callsStore && x.found) := by
    rw [Visit.fills, hkey]
    simp [x, visit]
  have hspared (i : Nat) : x.isSpared i = (client.meter = i && !x.callsStore) := by
    rw [Visit.isSpared, hkey]
    simp [x, visit]
  have hremoves (l : Key) : x.removes l = false := rfl
  have hhits : u.signals.count .hit = if x.callsStore then 0 else 1 := by
    rw [hcalls]
    rcases hu.find_cases hk with ⟨e, -, rfl⟩ | ⟨-, ⟨-, rfl⟩ | ⟨e, -, rfl⟩⟩ <;> rfl
  have hits (i : Nat) (hi : i < s.meters.length) : (t.meter i).count .hit =
      (s.meter i).count .hit + .ofNat (if x.isSpared i then 1 else 0) := by
    refine (count_hit_of_reached reached hi).trans ?_
    rw [hhits, hspared]
    by_cases hm : client.meter = i <;> cases x.callsStore <;> simp [hm]
  rcases hu.find_cases hk with ⟨e, hget, rfl⟩ | ⟨hget, ⟨hrow, rfl⟩ | ⟨e, hrow, rfl⟩⟩
  · replace hcalls : x.callsStore = false := hcalls
    refine ⟨⟨fun l => ?_, hits⟩, by simp [hcalls, hget], fun _ => hmap, by simp [hcalls, hstore]⟩
    simp [hfills, hcalls, hremoves, hmap]
  · replace hcalls : x.callsStore = true := hcalls
    replace hfound : x.found = false := hfound
    refine ⟨⟨fun l => ?_, hits⟩, by simp [hcalls, hget], fun _ => hmap, by simp [hcalls, hstore]⟩
    simp [hfills, hfound, hremoves, hmap]
  · replace hcalls : x.callsStore = true := hcalls
    replace hfound : x.found = true := hfound
    refine ⟨⟨fun l => ?_, hits⟩, by simp [hcalls, hget], by simp [hfound],
      by simp [hcalls, hstore]⟩
    rw [hmap, EntryMap.get?_insertIfAbsent retains, hfills, hcalls, hfound, hremoves]
    by_cases hl : k = l <;> simp [hl]

/-- Apart from what it does to the entry of its key, a write changes nothing and counts no hit. -/
theorem entry_of_write (x : Write) (settled : s.Settled) (retains : s.map.policy.retains = true)
    (hk : Entity.key e = .ok k)
    (permitted : (s.ask client (x.request e)).2.PermitsAll healthy events)
    (finished : ((s.ask client (x.request e)).2.run events).Settled) :
    let t := (s.ask client (x.request e)).2.run events
    (∀ l, t.map.get? l = if k = l then x.entry (x.subject k e) else s.map.get? l) ∧
      ∀ i < s.meters.length, (t.meter i).count .hit = (s.meter i).count .hit := by
  intro t
  have works : ¬ (x.gridWork k (x.subject k e) : Work E Out).IsNotice := by cases x <;> exact id
  obtain ⟨u, hu, reached⟩ := reached_of_ask settled (x.opening_request hk) works permitted finished
  obtain ⟨hmap, hhits⟩ := hu.write
  refine ⟨fun l => ?_, fun i hi => ?_⟩
  · rw [show t.map = _ from reached.map, hmap]
    split
    · subst l
      exact x.get?_onGrid retains k _
    · exact x.get?_onGrid_of_ne _ (Ne.symm ‹_›) _
  · rw [count_hit_of_reached reached hi, hhits, ite_self]
    exact UInt64.add_zero _

theorem Leaves.of_keyless {x : Visit E Out L} (settled : s.Settled) {r : Request E Out}
    {err : KeyError} (hr : r.opening = .error err)
    (permitted : (s.ask client r).2.PermitsAll healthy events)
    (hop : ∀ span n, x.op ≠ .load span n) (hkey : x.key? = none) :
    Leaves x s ((s.ask client r).2.run events) := by
  have unmoved := (Settled.ask settled hr).unmoved_run healthy_sheltered permitted
  have hmap := unmoved.map.trans (s.ask_map client r)
  have idle : (∀ k, x.removes k = false ∧ x.fills k = false) ∧ ∀ i, x.isSpared i = false := by
    cases hx : x.op with
    | load span n => exact absurd hx (hop span n)
    | find | save | remove => simp [Visit.removes, Visit.fills, Visit.isSpared, hx, hkey]
  refine ⟨fun k => ?_, fun i hi => ?_⟩
  · simp [idle.1 k, hmap]
  · rw [idle.2 i, meter, unmoved.meters]
    exact (s.count_hit_ask client r hi).trans (UInt64.add_zero _).symm

theorem Leaves.of_operation (settled : s.Settled) (built : s.store.Built)
    (retains : s.map.policy.retains = true) (client : Client L) (op : Operation E)
    (permitted : (s.begin client op).PermitsAll healthy events)
    (finished : ((s.begin client op).run events).Settled) :
    Leaves (s.visit client op events) s ((s.begin client op).run events) := by
  cases op with
  | find parts =>
    cases hk : Key.derive parts with
    | ok k => exact (Leaves.of_find settled retains hk permitted finished).1
    | error err =>
      exact .of_keyless settled (Request.opening_find_error hk) permitted
        (fun _ _ h => by cases h) (by simp [Visit.key?, visit, hk, Except.toOption])
  | save e =>
    cases hk : Entity.key e with
    | ok k =>
      obtain ⟨hmap, hhits⟩ := entry_of_write .save settled retains hk permitted finished
      refine ⟨fun l => ?_, fun i hi => (hhits i hi).trans (UInt64.add_zero _).symm⟩
      rw [show ((s.begin client (.save e)).run events).map.get? l = _ from hmap l]
      by_cases hl : k = l <;>
        simp [Visit.removes, Visit.fills, Visit.key?, visit, hk, Except.toOption, Write.entry, hl]
    | error err =>
      exact .of_keyless settled (Request.opening_save_error hk) permitted
        (fun _ _ h => by cases h) (by simp [Visit.key?, visit, hk, Except.toOption])
  | remove e =>
    cases hk : Entity.key e with
    | ok k =>
      obtain ⟨hmap, hhits⟩ := entry_of_write .remove settled retains hk permitted finished
      refine ⟨fun l => ?_, fun i hi => (hhits i hi).trans (UInt64.add_zero _).symm⟩
      rw [show ((s.begin client (.remove e)).run events).map.get? l = _ from hmap l]
      by_cases hl : k = l <;>
        simp [Visit.removes, Visit.fills, Visit.key?, visit, hk, Except.toOption, Write.entry, hl]
    | error err =>
      exact .of_keyless settled (Request.opening_remove_error hk) permitted
        (fun _ _ h => by cases h) (by simp [Visit.key?, visit, hk, Except.toOption])
  | load span splits =>
    obtain ⟨hmap, hmeters⟩ :=
      get?_of_load healthy_sheltered healthy_serves settled built.keyed retains permitted finished
    refine ⟨fun k => ?_, fun i _ => ?_⟩
    · rw [hmap, RowStore.shownAfter]
      cases hrow : s.store.rows.get? k with
      | none => simp [Visit.removes, Visit.fills, visit, Table.contains, hrow]
      | some row =>
        by_cases hin : span.contains k.token <;>
          simp [Visit.removes, Visit.fills, visit, Table.contains, hrow, hin]
    · rw [meter, hmeters]
      exact (UInt64.add_zero _).symm

theorem length_meters_askAll (s : Tiers E Out L) (client : Client L)
    (requests : List (Request E Out)) :
    (s.askAll client requests).meters.length = s.meters.length := by
  induction requests generalizing s with
  | nil => rfl
  | cons r rest ih => exact (ih _).trans (s.length_meters_step (.ask client r))

/-! ### One operation after the other -/

/-- An entry is there if and only if something has filled it, and the hits are the finds that
called no store. -/
structure ReadOnce (s₀ s : Tiers E Out L) (past : List (Visit E Out L)) : Prop where
  settled : s.Settled
  built : s.store.Built
  retains : s.map.policy.retains = true
  meters : s.meters.length = s₀.meters.length
  entries : ∀ k, (s.map.get? k).isSome = (Visit.since k past).any fun x => x.fills k
  hits : ∀ i < s₀.meters.length, (s.meter i).count .hit =
    (s₀.meter i).count .hit + .ofNat (past.countP fun x => x.isSpared i)

theorem ReadOnce.start {name : String} {policy : MapPolicy} {map : EntryMap E}
    (created : EntryMap.create name policy = .ok map) (retains : policy.retains = true)
    {store : RowStore E} (built : store.Built) (meters : List Meter) :
    let s₀ : Tiers E Out L := { create map store with meters }
    ReadOnce s₀ s₀ [] := by
  obtain rfl := EntryMap.eq_of_create created
  exact ⟨fun i w hw => absurd hw (not_due_of_tasks_nil rfl i w), built, retains, rfl, fun _ => rfl,
    fun _ _ => (UInt64.add_zero _).symm⟩

theorem ReadOnce.next {s₀ : Tiers E Out L} {past : List (Visit E Out L)} (h : ReadOnce s₀ s past)
    (client : Client L) (op : Operation E)
    (permitted : (s.begin client op).PermitsAll healthy events)
    (finished : ((s.begin client op).run events).Settled) :
    ReadOnce s₀ ((s.begin client op).run events) (s.visit client op events :: past) := by
  have leaves := Leaves.of_operation h.settled h.built h.retains client op permitted finished
  have hbegin := s.length_meters_askAll client op.requests
  have built : (s.begin client op).store.Built := by
    rw [begin, askAll_store]
    exact h.built
  obtain ⟨hpolicy, hbuilt, hlength⟩ := keeps_run built events
  refine ⟨finished, hbuilt, ?_, hlength.trans (hbegin.trans h.meters), fun k => ?_, fun i hi => ?_⟩
  · rw [hpolicy, begin, askAll_map]
    exact h.retains
  · rw [leaves.entries, h.entries, Visit.since, Visit.since, List.takeWhile_cons]
    cases (s.visit client op events).removes k <;> rfl
  · rw [leaves.hits i (by rwa [h.meters]), h.hits i hi, List.countP_cons, UInt64.add_assoc,
      ← UInt64.ofNat_add]

theorem Visits.readOnce {s₀ : Tiers E Out L} {past : List (Visit E Out L)}
    (h : Visits healthy s₀ s past) (h₀ : ReadOnce s₀ s₀ []) : ReadOnce s₀ s past := by
  induction h with
  | start => exact h₀
  | next client op events _ permitted settled ih => exact ih.next client op permitted settled

/-- A find calls the store if and only if nothing has filled its key since that was last removed;
if it finds nothing it leaves the map as it is. The store counts one find for one that calls it, and
is otherwise as it was. As many hits are counted as there were finds of a key that called no
store. -/
theorem Visits.read_through_once {name : String} {policy : MapPolicy} {map : EntryMap E}
    (created : EntryMap.create name policy = .ok map) (retains : policy.retains = true)
    {store : RowStore E} (built : store.Built) {meters : List Meter}
    {past : List (Visit E Out L)}
    (before : Visits healthy { create map store with meters } s past) :
    (∀ client parts events, (s.begin client (.find parts)).PermitsAll healthy events →
        ((s.begin client (.find parts)).run events).Settled →
        let x := s.visit client (.find parts) events
        let t := (s.begin client (.find parts)).run events
        (∀ k, Key.derive parts = .ok k →
          (x.callsStore = true ↔ ∀ y ∈ Visit.since k past, y.fills k = false)) ∧
        (x.found = false → t.map = s.map) ∧ t.store.rows = s.store.rows ∧
        t.store.calls =
          { s.store.calls with finds := s.store.calls.finds + if x.callsStore then 1 else 0 }) ∧
      ∀ i < meters.length, (s.meter i).count .hit =
        (meters.getD i .zero).count .hit + .ofNat (past.countP fun x => x.isSpared i) := by
  have once := before.readOnce (.start created retains built meters)
  refine ⟨fun client parts events permitted finished => ?_, once.hits⟩
  intro x t
  cases hk : Key.derive parts with
  | ok k =>
    obtain ⟨-, hcalls, hfound, hstore⟩ :=
      Leaves.of_find once.settled once.retains hk permitted finished
    refine ⟨fun l hl => ?_, hfound, ?_⟩
    · cases hl
      have hentry := once.entries k
      rw [hcalls, ← Option.not_isSome, hentry]
      simp
    · rw [hstore]
      cases x.callsStore <;> exact ⟨rfl, rfl⟩
  | error err =>
    have unmoved := (Settled.ask once.settled (Request.opening_find_error hk)).unmoved_run
      healthy_sheltered permitted
    have hmap : t.map = s.map := unmoved.map.trans (s.ask_map client (.find parts))
    have hstore : t.store = s.store := unmoved.store.trans (s.ask_store client (.find parts))
    have hcalls : x.callsStore = false := by
      have := any_pointsOf x.calls
      rwa [show pointsOf x.calls = [] from unmoved.points] at this
    exact ⟨fun _ hl => (by cases hl), fun _ => hmap, by simp [hstore], by simp [hstore, hcalls]⟩

end Tiers

namespace Refused

open Item

def span : Span :=
  ⟨sampleKey.token, -4015069608279270500, by decide⟩

def idle : Tiers Item Unit Unit :=
  (Tiers.create ⟨"items", .bulk, ∅⟩ (RowStore.empty.seed [sample "kept"]).2).addMeter

def finding : List (Event Item Unit Unit) :=
  [.call 0 .serve, .call 0 .serve, .call 1 .serve]

def found : Tiers Item Unit Unit :=
  (idle.begin .first (.find [.int 7])).run finding

def removing : List (Event Item Unit Unit) :=
  [.call 2 .serve, .call 2 .refuse]

def removed : Tiers Item Unit Unit :=
  (found.begin .first (.remove (sample "kept"))).run removing

def loading : List (Event Item Unit Unit) :=
  [.call 3 .serve, .call 3 .serve, .call 3 .serve]

def loaded : Tiers Item Unit Unit :=
  (removed.begin .first (.load span 1)).run loading

def past : List (Visit Item Unit Unit) :=
  [removed.visit .first (.load span 1) loading,
    found.visit .first (.remove (sample "kept")) removing,
    idle.visit .first (.find [.int 7]) finding]

open Tiers

theorem visits : Visits healthy idle loaded past := by
  have h₁ : Visits healthy idle found [idle.visit .first (.find [.int 7]) finding] :=
    .next .first (.find [.int 7]) finding .start
      ⟨permits_call ⟨_, rfl⟩ rfl, permits_call ⟨_, rfl⟩ rfl,
        permits_call ⟨_, rfl⟩ rfl, trivial⟩
      (settled_of_isQuiet rfl)
  have h₂ : Visits healthy idle removed [found.visit .first (.remove (sample "kept")) removing,
      idle.visit .first (.find [.int 7]) finding] :=
    .next .first (.remove (sample "kept")) removing h₁
      ⟨permits_call ⟨_, rfl⟩ rfl, permits_call ⟨_, rfl⟩ trivial, trivial⟩
      (settled_of_isQuiet rfl)
  exact .next .first (.load span 1) loading h₂
    ⟨permits_call ⟨_, rfl⟩ rfl, permits_call ⟨_, rfl⟩ rfl,
      permits_call ⟨_, rfl⟩ rfl, trivial⟩
    (settled_of_isQuiet rfl)

theorem spared_once :
    (loaded.visit .first (.find [.int 7]) [.call 4 .serve]).callsStore = false ∧
      (((loaded.begin .first (.find [.int 7])).run [.call 4 .serve]).meter 0).count .hit = 1 := by
  have created : EntryMap.create "items" .bulk = .ok (⟨"items", .bulk, ∅⟩ : EntryMap Item) := rfl
  have built : (RowStore.empty.seed [sample "kept"]).2.Built := .seed .empty [sample "kept"]
  have permitted : (loaded.begin .first (.find [.int 7])).PermitsAll healthy [.call 4 .serve] :=
    ⟨permits_call ⟨_, rfl⟩ rfl, trivial⟩
  have finished : ((loaded.begin .first (.find [.int 7])).run [.call 4 .serve]).Settled :=
    settled_of_isQuiet rfl
  obtain ⟨finds, -⟩ := Visits.read_through_once created rfl built visits
  obtain ⟨-, hits⟩ := Visits.read_through_once created rfl built
    (visits.next .first (.find [.int 7]) _ permitted finished)
  obtain ⟨calls, -⟩ := finds .first [.int 7] [.call 4 .serve] permitted finished
  refine ⟨?_, (hits 0 (by decide)).trans rfl⟩
  rw [← Bool.not_eq_true, calls sampleKey rfl]
  intro h
  have := h (removed.visit .first (.load span 1) loading) (.head _)
  cases this

end Refused

end CacheAside
