import CacheAside.Proofs.Access.Counts
import CacheAside.Proofs.Access.Finds

set_option autoImplicit false

namespace CacheAside

variable {E Out L : Type}

/-- What work comes to: the calls it makes, what is measured, the tiers after it and its result. -/
structure Upshot (E Out : Type) where
  points : List CallPoint
  signals : List Signal
  map : EntryMap E
  store : RowStore E
  result : Result (Answer E Out)

structure Climate.Sheltered (climate : Climate E Out) : Prop where
  asks : ∀ r, ¬ climate.asks r
  loses : ¬ climate.loses

namespace Work

variable [Entity E] {climate : Climate E Out} {map : EntryMap E} {store : RowStore E}
  {m : Move E Out} {v w : Work E Out}

def Makes (climate : Climate E Out) (w : Work E Out) (map : EntryMap E) (store : RowStore E)
    (m : Move E Out) : Prop :=
  ∃ number listening c, climate.meets w c ∧ w.advance number listening map store c = m

/-- Work that goes on from call to call, and then with what it has started on the side. -/
inductive ComesTo (climate : Climate E Out) :
    Work E Out → EntryMap E → RowStore E → Upshot E Out → Prop
  | done {w : Work E Out} {map : EntryMap E} {store : RowStore E} {m : Move E Out}
    {r : Result (Answer E Out)} (makes : w.Makes climate map store m)
    (ended : m.progress = .done r) (told : ∀ v ∈ m.spawned, v.IsNotice) :
    ComesTo climate w map store ⟨[w.point], m.signals, m.map, m.store, r⟩
  | next {v w : Work E Out} {map : EntryMap E} {store : RowStore E} {m : Move E Out}
    {u : Upshot E Out} (makes : w.Makes climate map store m) (goes : m.progress = .next v)
    (rest : ComesTo climate v m.map m.store u) :
    ComesTo climate w map store
      ⟨w.point :: u.points, m.signals ++ u.signals, u.map, u.store, u.result⟩
  | aside {v w : Work E Out} {map : EntryMap E} {store : RowStore E} {m : Move E Out}
    {r : Result (Answer E Out)} {u : Upshot E Out} (makes : w.Makes climate map store m)
    (ended : m.progress = .done r) (starts : m.spawned = [v]) (works : ¬ v.IsNotice)
    (rest : ComesTo climate v m.map m.store u) :
    ComesTo climate w map store
      ⟨w.point :: u.points, m.signals ++ u.signals, u.map, u.store, r⟩

section OneMove

variable {map : EntryMap E} {store : RowStore E} {m : Move E Out} {v w : Work E Out}
  {u : Upshot E Out} {r : Result (Answer E Out)}

theorem ComesTo.eq_of_done (h : w.ComesTo climate map store u)
    (only : ∀ m', w.Makes climate map store m' → m' = m) (ended : m.progress = .done r)
    (told : ∀ v ∈ m.spawned, v.IsNotice) : u = ⟨[w.point], m.signals, m.map, m.store, r⟩ := by
  cases h with
  | done makes hr =>
    obtain rfl := only _ makes
    cases ended.symm.trans hr
    rfl
  | next makes goes =>
    obtain rfl := only _ makes
    cases ended.symm.trans goes
  | aside makes _ starts works =>
    obtain rfl := only _ makes
    exact absurd (told _ (by simp [starts])) works

theorem ComesTo.exists_next (h : w.ComesTo climate map store u)
    (only : ∀ m', w.Makes climate map store m' → m' = m) (goes : m.progress = .next v) :
    ∃ u', v.ComesTo climate m.map m.store u' ∧
      u = ⟨w.point :: u'.points, m.signals ++ u'.signals, u'.map, u'.store, u'.result⟩ := by
  cases h with
  | done makes ended | aside makes ended =>
    obtain rfl := only _ makes
    cases ended.symm.trans goes
  | next makes hv rest =>
    obtain rfl := only _ makes
    cases goes.symm.trans hv
    exact ⟨_, rest, rfl⟩

theorem ComesTo.exists_aside (h : w.ComesTo climate map store u)
    (only : ∀ m', w.Makes climate map store m' → m' = m) (ended : m.progress = .done r)
    (starts : m.spawned = [v]) (works : ¬ v.IsNotice) :
    ∃ u', v.ComesTo climate m.map m.store u' ∧
      u = ⟨w.point :: u'.points, m.signals ++ u'.signals, u'.map, u'.store, r⟩ := by
  cases h with
  | done makes _ told =>
    obtain rfl := only _ makes
    exact absurd (told v (by simp [starts])) works
  | next makes goes =>
    obtain rfl := only _ makes
    cases ended.symm.trans goes
  | aside makes hr hv _ rest =>
    obtain rfl := only _ makes
    cases ended.symm.trans hr
    cases starts.symm.trans hv
    exact ⟨_, rest, rfl⟩

end OneMove

theorem spawned_cases (number : Nat) (listening : Bool) (map : EntryMap E) (store : RowStore E)
    (c : Conduct E) (w : Work E Out) :
    let m := w.advance number listening map store c
    m.spawned = [] ∨ ∃ r v, m.progress = .done r ∧ m.spawned = [v] := by
  have written (x : Write) (k : Key) (e : E) :
      let m := (x.storeWork k e : Work E Out).advance number listening map store c
      m.spawned = [] ∨ ∃ r v, m.progress = .done r ∧ m.spawned = [v] := by
    obtain ⟨-, -, -, hprog, hsp⟩ := x.advance_storeWork Out number listening map store c k e
    dsimp only
    rw [hsp]
    split
    · exact .inr ⟨_, _, hprog, rfl⟩
    · exact .inl rfl
  cases w with
  | readGrid k parts =>
    exact .inl (Find.advance_readGrid Out number listening map store c k parts).2.2.1
  | readStore k parts =>
    obtain ⟨-, -, hprog, hsp⟩ :=
      Find.advance_readStore Out number listening map store c k parts
    dsimp only
    rw [hsp]
    cases (Find.refill? k (c.storeRead store parts) : Option (Work E Out)) with
    | none => exact .inl rfl
    | some v => exact .inr ⟨_, v, hprog, rfl⟩
  | refill k e => exact .inl (advance_refill number listening map store).2.2.2
  | saveGrid k e =>
    exact .inl (Write.save.advance_gridWork Out number listening map store c k e).2.1
  | removeGrid k e =>
    exact .inl (Write.remove.advance_gridWork Out number listening map store c k e).2.1
  | saveStore k e => exact written .save k e
  | removeStore k e => exact written .remove k e
  | execute k p =>
    left
    cases c <;> simp only [advance, failure] <;> (try split) <;> rfl
  | notify => exact .inl rfl
  | scan span => exact .inl (advance_scan number listening map store span).2.2.1
  | feed span rest count => exact .inl (advance_feed number listening map store span rest count).2.1

omit [Entity E] in
theorem not_isNotice_of_leadsTo (h : v.LeadsTo w) : ¬ w.IsNotice := by
  cases h <;> exact id

/-- Work goes on, or it is done and at most one other thing is left to do. -/
theorem advance_cases (number : Nat) (listening : Bool) (map : EntryMap E) (store : RowStore E)
    (c : Conduct E) (w : Work E Out) :
    let m := w.advance number listening map store c
    (∃ v, m.progress = .next v ∧ m.spawned = [] ∧ ¬ v.IsNotice) ∨
      ∃ r, m.progress = .done r ∧
        ((∀ v ∈ m.spawned, v.IsNotice) ∨ ∃ v, m.spawned = [v] ∧ ¬ v.IsNotice) := by
  intro m
  rcases w.spawned_cases number listening map store c with hsp | ⟨r, v, hprog, hsp⟩
  · cases hprog : m.progress with
    | next v => exact .inl ⟨v, rfl, hsp, not_isNotice_of_leadsTo (leadsTo_of_advance hprog)⟩
    | done r => exact .inr ⟨r, rfl, .inl (by simp [m, hsp])⟩
  · refine .inr ⟨r, hprog, ?_⟩
    by_cases hv : v.IsNotice
    · exact .inl (by simpa [m, hsp] using hv)
    · exact .inr ⟨v, hsp, hv⟩

omit [Entity E] in
theorem point_eq_listener_iff (w : Work E Out) : w.point = .listener ↔ w.IsNotice := by
  cases w with
  | feed span rest count => cases rest <;> simp [point, IsNotice]
  | _ => simp [point, IsNotice]

end Work

namespace Tiers

variable {s t : Tiers E Out L} {client : Client L} {i n : Nat} {v w : Work E Out}
  {h : List (Called E Out)} {u : Upshot E Out}

def pointsOf (h : List (Called E Out)) : List CallPoint :=
  (h.map (·.work.point)).filter (· ≠ .listener)

structure Unmoved (s t : Tiers E Out L) (h : List (Called E Out)) : Prop where
  map : t.map = s.map
  store : t.store = s.store
  meters : t.meters = s.meters
  results : ∀ i r, s.result? i = some r → t.result? i = some r
  points : pointsOf h = []

/-- The work of a task has come to its end, with all that it started on the side. -/
structure Reached (client : Client L) (n : Nat) (u : Upshot E Out) (s t : Tiers E Out L)
    (h : List (Called E Out)) : Prop where
  map : t.map = u.map
  store : t.store = u.store
  result : t.result? n = some u.result
  points : pointsOf h = u.points
  counts : ∀ i < s.meters.length, ∀ signal, (t.meter i).count signal =
    (s.meter i).count signal + .ofNat (if client.meter = i then u.signals.count signal else 0)

theorem pointsOf_cons_notice (hv : v.IsNotice) (c : Conduct E) :
    pointsOf (⟨i, v, c⟩ :: h) = pointsOf h := by
  cases v <;> first | exact hv.elim | rfl

theorem pointsOf_cons (hv : ¬ v.IsNotice) (c : Conduct E) :
    pointsOf (⟨i, v, c⟩ :: h) = v.point :: pointsOf h := by
  have hpoint : v.point ≠ .listener := mt (Work.point_eq_listener_iff v).1 hv
  simp [pointsOf, hpoint]

variable [Entity E] {climate : Climate E Out} {events : List (Event E Out L)} {m : Move E Out}

omit [Entity E] in
theorem meters_apply_of_signals (hm : m.signals = []) :
    (s.apply i client m).meters = s.meters := by
  have hcount : (s.count client.meter m.signals).meters = s.meters := by rw [hm, count_nil]
  exact hcount

theorem meters_apply_notice (hv : v.IsNotice) (listening : Bool) (c : Conduct E) :
    (s.apply i client (v.advance i listening s.map s.store c)).meters = s.meters := by
  cases v with
  | notify origin event e => exact meters_apply_of_signals rfl
  | _ => exact hv.elim

theorem permits_cases (sheltered : climate.Sheltered) {ev : Event E Out L}
    (hev : s.Permits climate ev) :
    s.made ev = [] ∧ s.step ev = s ∨
      ∃ i c client w, ev = .call i c ∧ s.DueFor client i w ∧ climate.meets w c := by
  cases ev with
  | ask client r => exact absurd hev (sheltered.asks r)
  | lose k => exact absurd hev sheltered.loses
  | call i c =>
    rcases s.call_dueFor_cases i c with ⟨hno, hcall⟩ | ⟨client, w, hw⟩
    · exact .inl ⟨made_of_not_due hno c, hcall⟩
    · exact .inr ⟨i, c, client, w, rfl, hw, hev w hw.due⟩

theorem calls_cons_of_due (hv : s.Due i v) (c : Conduct E) (events : List (Event E Out L)) :
    s.calls (.call i c :: events) = ⟨i, v, c⟩ :: (s.call i c).calls events := by
  rw [calls, made_of_due hv]
  rfl

theorem Unmoved.cons_notice (due : s.DueFor client i v) (hv : v.IsNotice) (c : Conduct E)
    (rest : (s.call i c).Unmoved t h) : s.Unmoved t (⟨i, v, c⟩ :: h) := by
  have results := fun j r (hr : s.result? j = some r) => rest.results j r (result?_call c hr)
  have points := (pointsOf_cons_notice (i := i) hv c).trans rest.points
  rw [call_of_dueFor due] at rest
  exact ⟨rest.map.trans (apply_notice_map hv _ c), rest.store.trans (apply_notice_store hv _ c),
    rest.meters.trans (meters_apply_notice hv _ c), results, points⟩

/-- When nothing is due but notices, a run does nothing but tell them. -/
theorem Settled.unmoved_run (sheltered : climate.Sheltered) (settled : s.Settled)
    (permitted : s.PermitsAll climate events) : s.Unmoved (s.run events) (s.calls events) := by
  induction events generalizing s with
  | nil => exact ⟨rfl, rfl, rfl, fun _ _ hr => hr, rfl⟩
  | cons ev rest ih =>
    obtain ⟨hev, hrest⟩ := permitted
    rcases permits_cases sheltered hev with ⟨hmade, hstep⟩ | ⟨i, c, client, v, rfl, hv, -⟩
    · have hrun : s.run (ev :: rest) = s.run rest := congrArg (run · rest) hstep
      rw [calls, hmade, hstep, hrun]
      exact ih settled (hstep ▸ hrest)
    · have hnotice := settled i v hv.due
      rw [calls_cons_of_due hv.due]
      refine Unmoved.cons_notice hv hnotice c (ih ?_ hrest)
      rw [call_of_dueFor hv]
      exact settled.apply_notice hv.due _ c

omit [Entity E] in
theorem Alone.of_spawned (alone : s.Alone n w) {r : Result (Answer E Out)}
    (ended : m.progress = .done r) (starts : m.spawned = [v]) :
    (s.apply n client m).Alone s.tasks.length v := by
  have hn := alone.due.lt
  have hdue : ∀ j w, (s.apply n client m).Due j w ↔ _ := due_apply hn
  refine ⟨(hdue _ v).2 (.inr (.inr ⟨Nat.le_refl _, by simp [starts]⟩)), fun j x hx => ?_⟩
  rcases (hdue j x).1 hx with ⟨-, hn⟩ | ⟨hj, hd⟩ | ⟨hj, hmem⟩
  · cases ended.symm.trans hn
  · exact .inl ((alone.rest j x hd).resolve_right hj)
  · have := (List.getElem?_eq_some_iff.1 hmem).1
    rw [starts, List.length_singleton] at this
    exact .inr (by omega)

omit [Entity E] in
theorem Reached.of_done (hn : n < s.tasks.length) (works : ¬ w.IsNotice) (c : Conduct E)
    {r : Result (Answer E Out)} (ended : m.progress = .done r)
    (rest : (s.apply n client m).Unmoved t h) :
    Reached client n ⟨[w.point], m.signals, m.map, m.store, r⟩ s t (⟨n, w, c⟩ :: h) := by
  refine ⟨rest.map, rest.store, rest.results n r ?_, ?_, fun i hi signal => ?_⟩
  · rw [result?_apply hn, if_pos rfl, ended]
    rfl
  · rw [pointsOf_cons works, rest.points]
  · rw [meter, rest.meters]
    exact s.meter_apply hi n client m signal

omit [Entity E] in
theorem Reached.cons {j : Nat} (works : ¬ w.IsNotice) (c : Conduct E) {r : Result (Answer E Out)}
    (rest : Reached client j u (s.apply n client m) t h) (result : t.result? n = some r) :
    Reached client n ⟨w.point :: u.points, m.signals ++ u.signals, u.map, u.store, r⟩ s t
      (⟨n, w, c⟩ :: h) := by
  refine ⟨rest.map, rest.store, result, ?_, fun i hi signal => ?_⟩
  · rw [pointsOf_cons works, rest.points]
  · have hlength : (s.apply n client m).meters.length = s.meters.length :=
      s.length_meters_count client.meter m.signals
    rw [rest.counts i (by omega) signal, s.meter_apply hi, UInt64.add_assoc, ← UInt64.ofNat_add,
      List.count_append]
    split <;> rfl

theorem Reached.cons_notice (due : s.DueFor client i v) (hv : v.IsNotice) (c : Conduct E)
    {other : Client L} (rest : Reached other n u (s.call i c) t h) :
    Reached other n u s t (⟨i, v, c⟩ :: h) := by
  have hmeters : (s.call i c).meters = s.meters := by
    rw [call_of_dueFor due, meters_apply_notice hv]
  refine ⟨rest.map, rest.store, rest.result, (pointsOf_cons_notice hv c).trans rest.points, ?_⟩
  simpa [meter, hmeters] using rest.counts

theorem Alone.reached_call (alone : s.Alone n w) (due : s.DueFor client n w) (works : ¬ w.IsNotice)
    {c : Conduct E} (hc : climate.meets w c)
    (after : ∀ j v, (s.call n c).Alone j v → (s.call n c).DueFor client j v → ¬ v.IsNotice →
      ∃ u, v.ComesTo climate (s.call n c).map (s.call n c).store u ∧
        Reached client j u (s.call n c) t h)
    (finished : (s.call n c).Settled → (s.call n c).Unmoved t h)
    (result : ∀ r, (s.call n c).result? n = some r → t.result? n = some r) :
    ∃ u, w.ComesTo climate s.map s.store u ∧ Reached client n u s t (⟨n, w, c⟩ :: h) := by
  have hn := due.lt
  have cases := w.advance_cases n client.listener.isSome s.map s.store c
  have makes : w.Makes climate s.map s.store _ := ⟨n, client.listener.isSome, c, hc, rfl⟩
  rw [call_of_dueFor due] at after finished result
  generalize w.advance n client.listener.isSome s.map s.store c = m at *
  obtain ⟨v, hprog, hsp, hv⟩ | ⟨r, hprog, told | ⟨v, hsp, hv⟩⟩ := cases
  · have hdue : (s.apply n client m).DueFor client n v := by
      rw [DueFor, getElem?_tasks_apply hn, if_pos rfl, hprog]
    obtain ⟨u, hu, reached⟩ := after n v (alone.of_apply hprog hsp) hdue hv
    exact ⟨_, .next makes hprog hu, reached.cons works c reached.result⟩
  · have settled : (s.apply n client m).Settled := .of_apply alone.rest hn (by simp [hprog]) told
    exact ⟨_, .done makes hprog told, .of_done hn works c hprog (finished settled)⟩
  · have hdue : (s.apply n client m).DueFor client s.tasks.length v := by
      rw [DueFor, getElem?_tasks_apply hn, if_neg (Nat.ne_of_gt hn), if_neg (Nat.lt_irrefl _), hsp,
        Nat.sub_self]
      rfl
    obtain ⟨u, hu, reached⟩ := after _ v (alone.of_spawned hprog hsp) hdue hv
    refine ⟨_, .aside makes hprog hsp hv hu, reached.cons works c (result r ?_)⟩
    rw [result?_apply hn, if_pos rfl, hprog]
    rfl

/-- A task that is due alone comes to what its work comes to. -/
theorem Alone.reached_run (sheltered : climate.Sheltered) (alone : s.Alone n w)
    (due : s.DueFor client n w) (works : ¬ w.IsNotice) (permitted : s.PermitsAll climate events)
    (settled : (s.run events).Settled) :
    ∃ u, w.ComesTo climate s.map s.store u ∧
      Reached client n u s (s.run events) (s.calls events) := by
  induction events generalizing s n w with
  | nil => exact absurd (settled n w alone.due) works
  | cons ev rest ih =>
    obtain ⟨hev, hrest⟩ := permitted
    rcases permits_cases sheltered hev with
      ⟨hmade, hstep⟩ | ⟨i, c, other, v, rfl, hv, hc⟩
    · have hrun : s.run (ev :: rest) = s.run rest := congrArg (run · rest) hstep
      rw [hrun] at settled ⊢
      rw [calls, hmade, hstep]
      exact ih alone due works (hstep ▸ hrest) settled
    · rw [calls_cons_of_due hv.due]
      rcases alone.due_cases hv.due with ⟨rfl, rfl⟩ | ⟨hin, hnotice⟩
      · exact alone.reached_call due works hc
          (fun j x hx hdue works => ih hx hdue works hrest settled)
          (fun finished => finished.unmoved_run sheltered hrest) fun r hr => result?_run rest hr
      · have hcall : s.step (.call i c) = _ := call_of_dueFor hv c
        have halone : (s.step (.call i c)).Alone n w := by
          rw [hcall]
          exact alone.apply_notice hin hv.due hnotice _ c
        have hdue : (s.step (.call i c)).DueFor client n w := by
          rw [hcall]
          exact due.apply_of_ne hv.lt (Ne.symm hin)
        obtain ⟨u, hu, reached⟩ := ih halone hdue works hrest settled
        rw [hcall, apply_notice_map hnotice, apply_notice_store hnotice] at hu
        exact ⟨u, hu, reached.cons_notice hv hnotice c⟩

end Tiers

end CacheAside
