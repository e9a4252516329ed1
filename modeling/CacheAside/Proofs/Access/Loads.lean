import CacheAside.Proofs.Access.Alone
import CacheAside.Proofs.Warmup.Exact

set_option autoImplicit false

namespace CacheAside

variable {E Out L : Type}

theorem Work.IsNotice.left_eq_nil {w : Work E Out} (hw : w.IsNotice) (store : RowStore E) :
    (Progress.next w).left store = [] := by
  cases w <;> first | rfl | exact hw.elim

theorem Work.advance_filling [Entity E] {w : Work E Out} (number : Nat) (listening : Bool)
    (map : EntryMap E) (store : RowStore E) {c : Conduct E} (hc : w.IsLoad → c = .serve)
    (hw : w.IsNotice ∨ w.IsLoad) {at₀ : RowStore E} (hrows : store.rows = at₀.rows)
    (sound : ∀ row ∈ (Progress.next w).left at₀, (entryOf? row).isSome = true) :
    let m := w.advance number listening map store c
    ∃ given, m.map = map.putAll given ∧ m.store.rows = store.rows ∧ m.signals = [] ∧
      m.spawned = [] ∧
      ((Progress.next w).left at₀).filterMap entryOf? =
        given ++ (m.progress.left at₀).filterMap entryOf? ∧
      (∀ row ∈ m.progress.left at₀, row ∈ (Progress.next w).left at₀) ∧
      ∀ v, m.progress = .next v → v.IsLoad := by
  rcases hw with hw | hw
  · cases w with
    | notify origin event e => exact ⟨[], rfl, rfl, rfl, rfl, rfl, nofun, nofun⟩
    | _ => exact hw.elim
  · obtain rfl := hc hw
    obtain ⟨hsp, hstore, hprog, -⟩ := Work.advance_load hw number listening map store .serve
    obtain ⟨-, hleft, hsub⟩ := Work.advance_served number listening map store hw hrows sound
    refine ⟨_, map_advance_load number listening map store hw .serve, hstore, ?_, hsp, hleft, hsub,
      fun v hv => ?_⟩
    · cases w with
      | scan span => rfl
      | feed span rest count =>
        cases rest with
        | nil => rfl
        | cons row rest =>
          simp only [advance]
          split <;> rfl
      | _ => exact hw.elim
    · rwa [hv] at hprog

namespace Tiers

variable [Entity E] {begun s : Tiers E Out L} {client : Client L} {i : Nat} {w : Work E Out}
  {puts : List (Key × E)}

def incoming (s : Tiers E Out L) (store : RowStore E) : List (Key × E) :=
  s.tasks.flatMap fun t => (t.progress.left store).filterMap Work.entryOf?

theorem incoming_of_settled (h : s.Settled) (store : RowStore E) : s.incoming store = [] := by
  refine List.flatMap_eq_nil_iff.2 fun t ht => ?_
  obtain ⟨i, hi⟩ := List.mem_iff_getElem?.1 ht
  obtain ⟨client, w | r⟩ := t
  · rw [(h i w ⟨client, hi⟩).left_eq_nil]
    rfl
  · rfl

/-- All work that is due tells a listener something or puts rows. What was put is in the map, and
with what is left it is the rows that there were to put. -/
structure Filling (begun s : Tiers E Out L) (puts : List (Key × E)) : Prop where
  map : s.map = begun.map.putAll puts
  rows : s.store.rows = begun.store.rows
  meters : s.meters = begun.meters
  due : ∀ i w, s.Due i w → w.IsNotice ∨ w.IsLoad
  conserved : (puts ++ s.incoming begun.store).Perm (begun.incoming begun.store)
  sound : ∀ t ∈ s.tasks, ∀ row ∈ t.progress.left begun.store, (Work.entryOf? row).isSome = true

omit [Entity E] in
theorem tasks_apply_of_spawned {m : Move E Out} (hm : m.spawned = []) :
    (s.apply i client m).tasks = s.tasks.set i ⟨client, m.progress⟩ := by
  simp [apply, count, hm]

theorem Filling.call (h : Filling begun s puts) (due : s.DueFor client i w) {c : Conduct E}
    (hc : w.IsLoad → c = .serve) : ∃ given, Filling begun (s.call i c) (puts ++ given) := by
  have hmem := List.mem_of_getElem? due
  obtain ⟨given, hmap, hrows, hsignals, hsp, hleft, hsub, hnext⟩ :=
    w.advance_filling i client.listener.isSome s.map s.store hc (h.due i w due.due) h.rows
      (h.sound _ hmem)
  have htasks : (s.apply i client _).tasks = _ := tasks_apply_of_spawned hsp
  rw [call_of_dueFor due]
  refine ⟨given, ?_, hrows.trans h.rows, (meters_apply_of_signals hsignals).trans h.meters, ?_, ?_,
    fun t ht => ?_⟩
  · rw [apply_map, hmap, h.map, EntryMap.putAll_append]
  · refine due_of_apply h.due due.lt (fun v hv => .inr (hnext v hv)) ?_
    simp [hsp]
  · rw [incoming, htasks, List.append_assoc]
    exact ((flatMap_set_perm due hleft).append_left puts).trans h.conserved
  · rw [htasks] at ht
    rcases List.mem_or_eq_of_mem_set ht with ht | rfl
    · exact h.sound t ht
    · exact fun row hrow => h.sound _ hmem row (hsub row hrow)

theorem Filling.step {climate : Climate E Out} (sheltered : climate.Sheltered)
    (serves : ∀ (w : Work E Out) c, w.IsLoad → climate.meets w c → c = .serve) (s : Tiers E Out L)
    (ev : Event E Out L) (h : ∃ puts, Filling begun s puts) (hp : s.Permits climate ev) :
    ∃ puts, Filling begun (s.step ev) puts := by
  obtain ⟨puts, h⟩ := h
  rcases permits_cases sheltered hp with ⟨-, hstep⟩ | ⟨i, c, client, w, rfl, hw, hc⟩
  · exact ⟨puts, by rwa [hstep]⟩
  · obtain ⟨given, h⟩ := h.call hw fun hload => serves w c hload hc
    exact ⟨puts ++ given, h⟩

section AskAll

variable (s) (client) (spans : List Span)

theorem tasks_askAll_load :
    (s.askAll client (spans.map .load)).tasks =
      s.tasks ++ spans.map fun span => ⟨client, .next (.scan span)⟩ := by
  induction spans generalizing s with
  | nil => simp [askAll]
  | cons span rest ih =>
    have := ih (s.ask client (.load span)).2
    simpa [askAll, ask_tasks, Request.opening, Except.toOption] using this

theorem meters_askAll_load : (s.askAll client (spans.map .load)).meters = s.meters := by
  induction spans generalizing s with
  | nil => rfl
  | cons span rest ih => exact ih (s.ask client (.load span)).2

variable {s}

theorem incoming_askAll (settled : s.Settled) (keyed : s.store.Keyed) :
    (s.askAll client (spans.map .load)).incoming s.store = spans.flatMap s.store.entriesIn := by
  have hparts : (fun span => ((Progress.next (.scan span) : Progress E Out).left s.store).filterMap
      Work.entryOf?) = s.store.entriesIn :=
    funext fun span => RowStore.filterMap_rowsIn keyed span
  have hold := incoming_of_settled settled s.store
  rw [incoming] at hold
  rw [incoming, tasks_askAll_load, List.flatMap_append, hold, List.flatMap_map, hparts,
    List.nil_append]

theorem Filling.start (settled : s.Settled) (keyed : s.store.Keyed) :
    let t := s.askAll client (spans.map .load)
    Filling t t [] := by
  refine ⟨rfl, rfl, rfl, ?_, .refl _, fun t ht row hrow => ?_⟩
  · refine due_askAll client (fun j w hw => .inl (settled j w hw)) fun r hr w ho => ?_
    obtain ⟨span, -, rfl⟩ := List.mem_map.1 hr
    cases ho
    exact .inr trivial
  · rw [tasks_askAll_load] at ht
    rw [askAll_store] at hrow
    rcases List.mem_append.1 ht with ht | ht
    · obtain ⟨i, hi⟩ := List.mem_iff_getElem?.1 ht
      obtain ⟨other, w | r⟩ := t
      · simp [(settled i w ⟨other, hi⟩).left_eq_nil] at hrow
      · cases hrow
    · obtain ⟨span, -, rfl⟩ := List.mem_map.1 ht
      obtain ⟨r, hr, rfl⟩ := List.mem_map.1 hrow
      simp [RowStore.entryOf?_of_mem keyed (List.mem_filter.1 hr).1]

end AskAll

/-- A load that is over has put the rows of its span into the map, and nothing else. -/
theorem get?_of_load {climate : Climate E Out} (sheltered : climate.Sheltered)
    (serves : ∀ (w : Work E Out) c, w.IsLoad → climate.meets w c → c = .serve)
    (settled : s.Settled) (keyed : s.store.Keyed) (retains : s.map.policy.retains = true)
    {span : Span} {splits : Nat} {events : List (Event E Out L)}
    (permitted : (s.begin client (.load span splits)).PermitsAll climate events)
    (finished : ((s.begin client (.load span splits)).run events).Settled) :
    let t := (s.begin client (.load span splits)).run events
    (∀ k, t.map.get? k = s.store.shownAfter span s.map.get? k) ∧ t.meters = s.meters := by
  have hbegin : s.begin client (.load span splits) =
      s.askAll client ((span.split splits).map .load) := rfl
  rw [hbegin] at permitted finished ⊢
  have start := Filling.start client (span.split splits) settled keyed
  obtain ⟨puts, h⟩ := run_of_step (Filling.step sheltered serves) ⟨[], start⟩ permitted
  have hmap := h.map
  have conserved := h.conserved
  rw [askAll_map] at hmap
  rw [askAll_store, incoming_of_settled finished, List.append_nil,
    incoming_askAll client _ settled keyed] at conserved
  refine ⟨fun k => ?_, h.meters.trans (meters_askAll_load ..)⟩
  rw [hmap]
  exact RowStore.get?_putAll_entriesIn retains
    (conserved.trans (s.store.entriesIn_split span splits)) k

end Tiers

end CacheAside
