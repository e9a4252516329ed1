import CacheAside.Proofs.Access.History

set_option autoImplicit false

namespace CacheAside

variable {E Out : Type}

/-! ### The work of loading -/

def Work.IsLoad : Work E Out → Prop
  | .scan _ | .feed .. => True
  | _ => False

def Progress.IsLoad : Progress E Out → Prop
  | .next w => w.IsLoad
  | .done (.ok (.loaded _)) => True
  | .done _ => False

def Progress.callsLeft (store : RowStore E) : Progress E Out → Nat
  | .next (.scan span) => (store.rowsIn span.start span.stop).length + 2
  | .next (.feed _ rest _) => rest.length + 1
  | _ => 0

theorem RowStore.rowsIn_congr {store other : RowStore E} (h : other.rows = store.rows)
    (start stop : Int64) : other.rowsIn start stop = store.rowsIn start stop := by
  rw [rowsIn, rowsIn, h]

theorem Progress.callsLeft_congr {store other : RowStore E} (h : other.rows = store.rows)
    (p : Progress E Out) : p.callsLeft other = p.callsLeft store := by
  cases p with
  | done r => rfl
  | next w => cases w <;> first | rfl | simp only [callsLeft, RowStore.rowsIn_congr h]

theorem Work.advance_load [Entity E] {w : Work E Out} (hw : w.IsLoad) (number : Nat)
    (listening : Bool) (map : EntryMap E) (store : RowStore E) (c : Conduct E) :
    let m := w.advance number listening map store c
    m.spawned = [] ∧ m.store.rows = store.rows ∧ m.progress.IsLoad ∧
      m.progress.callsLeft store + 1 ≤ (Progress.next w).callsLeft store := by
  cases w with
  | scan span =>
    obtain ⟨-, hrows, hsp, ⟨a, hprog⟩ | hprog⟩ :=
      @advance_scan E Out _ number listening map store c span
    all_goals
      refine ⟨hsp, hrows, ?_⟩
      rw [hprog]
      simp [Progress.IsLoad, Progress.callsLeft, IsLoad]
  | feed span rest count =>
    obtain ⟨hstore, hsp, ⟨⟨a, hprog⟩, -⟩ | ⟨row, left, key, stamped, rfl, -, hprog, -⟩⟩ :=
      @advance_feed E Out _ number listening map store c span rest count
    all_goals
      refine ⟨hsp, congrArg _ hstore, ?_⟩
      rw [hprog]
      simp [Progress.IsLoad, Progress.callsLeft, IsLoad]
  | _ => exact hw.elim

/-! ### One step of a load -/

namespace LoadJob

open Warmup Tiers

def callsLeft (l : LoadJob E) (i : Nat) : Nat :=
  (l.tiers.tasks[i]?.map fun t => t.progress.callsLeft l.tiers.store).getD 0

/-- What stays as it was when a load began: its parts, each with a task that loads. -/
structure Follows (begun l : LoadJob E) : Prop where
  parts : l.parts = begun.parts
  mapName : l.mapName = begun.mapName
  rows : l.tiers.store.rows = begun.tiers.store.rows
  count : l.tiers.tasks.length = begun.parts.length
  loads : ∀ t ∈ l.tiers.tasks, t.progress.IsLoad

variable [Entity E] {weather : Weather E} {begun l : LoadJob E} {i : Nat} {w : Work E Unit}

theorem turn_of_not_due (h : ∀ w, ¬ l.tiers.Due i w) : l.turn weather i = l := by
  cases hw : l.tiers.tasks[i]? >>= Task.work? with
  | none => simp [turn, hw]
  | some w => exact absurd (work?_eq_some_iff.1 hw) (h w)

theorem turn_cases (h : begun.Follows l) (weather : Weather E) (i : Nat) :
    (∀ w, ¬ l.tiers.Due i w) ∧ l.turn weather i = l ∨
      ∃ client w, l.tiers.tasks[i]? = some ⟨client, .next w⟩ ∧ w.IsLoad ∧
        let m := w.advance i client.listener.isSome l.tiers.map l.tiers.store (weather w)
        (l.turn weather i).tiers.tasks = l.tiers.tasks.set i ⟨client, m.progress⟩ ∧
          (l.turn weather i).tiers.map = m.map ∧ (l.turn weather i).tiers.store = m.store ∧
          l.turn weather i = { l with tiers := (l.turn weather i).tiers } := by
  cases hw : l.tiers.tasks[i]? >>= Task.work? with
  | none =>
    have hno : ∀ w, ¬ l.tiers.Due i w := fun w hd => by simp [work?_eq_some_iff.2 hd] at hw
    exact .inl ⟨hno, turn_of_not_due hno⟩
  | some w =>
    have hturn : l.turn weather i = { l with tiers := l.tiers.call i (weather w) } := by
      simp [turn, hw]
    obtain ⟨client, hi⟩ := work?_eq_some_iff.1 hw
    have hload : w.IsLoad := h.loads _ (List.mem_of_getElem? hi)
    have hcall : l.tiers.call i (weather w) = l.tiers.apply i client
        (w.advance i client.listener.isSome l.tiers.map l.tiers.store (weather w)) := by
      simp [call, hi]
    refine .inr ⟨client, w, hi, hload, ?_⟩
    have hsp := (Work.advance_load hload i client.listener.isSome l.tiers.map l.tiers.store
      (weather w)).1
    rw [hturn, hcall]
    simp [apply, count, hsp]

theorem Follows.turn (h : begun.Follows l) (weather : Weather E) (i : Nat) :
    begun.Follows (l.turn weather i) := by
  rcases turn_cases h weather i with ⟨-, hl⟩ | ⟨client, w, hi, hload, htasks, -, hstore, hl⟩
  · rwa [hl]
  · obtain ⟨-, hrows, hnext, -⟩ := Work.advance_load hload i client.listener.isSome l.tiers.map
      l.tiers.store (weather w)
    refine ⟨by rw [hl]; exact h.parts, by rw [hl]; exact h.mapName, ?_, ?_, fun t ht => ?_⟩
    · rw [hstore, hrows, h.rows]
    · rw [htasks, List.length_set, h.count]
    · rw [htasks] at ht
      rcases List.mem_or_eq_of_mem_set ht with ht | rfl
      · exact h.loads t ht
      · exact hnext

omit [Entity E] in
theorem join_tiers (l : LoadJob E) (i : Nat) : (l.join i).tiers = l.tiers := by
  unfold join
  split
  · split <;> rfl
  · rfl

omit [Entity E] in
theorem Follows.join (h : begun.Follows l) (i : Nat) : begun.Follows (l.join i) := by
  have hparts : (l.join i).parts = l.parts ∧ (l.join i).mapName = l.mapName := by
    unfold LoadJob.join
    split
    · split <;> exact ⟨rfl, rfl⟩
    · exact ⟨rfl, rfl⟩
  have htiers := l.join_tiers i
  refine ⟨hparts.1.trans h.parts, hparts.2.trans h.mapName, ?_, ?_, ?_⟩
  · rw [htiers, h.rows]
  · rw [htiers, h.count]
  · rw [htiers]
    exact h.loads

theorem Follows.step (h : begun.Follows l) (weather : Weather E) (st : LoadStep) :
    begun.Follows (l.step weather st) := by
  cases st with
  | turn i => exact h.turn weather i
  | join i => exact h.join i

theorem Follows.run (h : begun.Follows l) (weather : Weather E) (steps : List LoadStep) :
    begun.Follows (l.run weather steps) := by
  induction steps generalizing l with
  | nil => exact h
  | cons st rest ih => exact ih (h.step weather st)

theorem tiers_start (map : EntryMap E) (store : RowStore E) (mapName : String)
    (parts : List Span) :
    let s := (start map store mapName parts).tiers
    s.map = map ∧ s.store = store ∧
      s.tasks = parts.map fun part => ⟨loader, .next (.scan part)⟩ := by
  have grow : ∀ (parts : List Span) (s : LoadTiers E),
      let t := parts.foldl (fun s part => (s.ask loader (.load part)).2) s
      t.map = s.map ∧ t.store = s.store ∧
        t.tasks = s.tasks ++ parts.map fun part => ⟨loader, .next (.scan part)⟩ := by
    intro parts
    induction parts with
    | nil => simp
    | cons part rest ih =>
      intro s
      obtain ⟨hmap, hstore, htasks⟩ := ih (s.ask loader (.load part)).2
      refine ⟨hmap, hstore, ?_⟩
      rw [List.foldl_cons, htasks, ask_tasks]
      simp [Request.opening, Except.toOption]
  exact grow parts _

theorem follows_start (map : EntryMap E) (store : RowStore E) (mapName : String)
    (parts : List Span) :
    (start map store mapName parts).Follows (start map store mapName parts) := by
  obtain ⟨-, -, htasks⟩ := tiers_start map store mapName parts
  refine ⟨rfl, rfl, rfl, ?_, fun t ht => ?_⟩
  · rw [htasks, List.length_map]
    rfl
  · rw [htasks] at ht
    obtain ⟨part, -, rfl⟩ := List.mem_map.1 ht
    trivial

/-! ### Loads come to their end -/

/-- A turn takes one from the calls that its task has left, if there are any. -/
theorem callsLeft_turn (h : begun.Follows l) (weather : Weather E) (i j : Nat) :
    (l.turn weather i).callsLeft j ≤ l.callsLeft j - if i = j then 1 else 0 := by
  rcases turn_cases h weather i with ⟨hno, hl⟩ | ⟨client, w, hi, hload, htasks, -, hstore, -⟩
  · rw [hl]
    by_cases hij : i = j
    · subst hij
      have : l.callsLeft i = 0 := by
        cases ht : l.tiers.tasks[i]? with
        | none => simp [callsLeft, ht]
        | some t =>
          obtain ⟨client, _ | r⟩ := t
          · exact absurd ⟨client, ht⟩ (hno _)
          · simp [callsLeft, ht, Progress.callsLeft]
      omega
    · simp [hij]
  · obtain ⟨-, hrows, -, hless⟩ := Work.advance_load hload i client.listener.isSome l.tiers.map
      l.tiers.store (weather w)
    have hlt := (List.getElem?_eq_some_iff.1 hi).1
    simp only [callsLeft, htasks, hstore, List.getElem?_set, hlt]
    by_cases hij : i = j
    · subst hij
      simp [hi, Progress.callsLeft_congr hrows]
      omega
    · simp [hij, Progress.callsLeft_congr hrows]

omit [Entity E] in
theorem callsLeft_join (l : LoadJob E) (i j : Nat) : (l.join i).callsLeft j = l.callsLeft j := by
  rw [callsLeft, join_tiers, callsLeft]

theorem callsLeft_step (h : begun.Follows l) (weather : Weather E) (st : LoadStep) (j : Nat) :
    (l.step weather st).callsLeft j ≤ l.callsLeft j := by
  cases st with
  | turn i => exact Nat.le_trans (callsLeft_turn h weather i j) (Nat.sub_le ..)
  | join i => exact Nat.le_of_eq (callsLeft_join l i j)

omit [Entity E] in
theorem ending?_isSome (h : begun.Follows l) (hi : i < begun.parts.length)
    (hleft : l.callsLeft i = 0) : (ending? l.tiers i).isSome = true := by
  have hlt : i < l.tiers.tasks.length := h.count ▸ hi
  have ht := List.getElem?_eq_getElem hlt
  have hload := h.loads _ (List.getElem_mem hlt)
  generalize l.tiers.tasks[i] = t at ht hload
  obtain ⟨client, w | r | a⟩ := t
  · cases w <;> first | exact hload.elim | simp [callsLeft, ht, Progress.callsLeft] at hleft
  · exact hload.elim
  · cases a <;> first | exact hload.elim | simp [ending?, Tiers.result?, ht, Task.result?]

theorem joined_step (weather : Weather E) (l : LoadJob E) (st : LoadStep) :
    ∀ i ∈ l.joined, i ∈ (l.step weather st).joined := by
  intro i hi
  cases st with
  | turn j =>
    simp only [step, LoadJob.turn]
    split <;> exact hi
  | join j =>
    simp only [step, LoadJob.join]
    split
    · split
      · exact hi
      · exact List.mem_append_left _ hi
    · exact hi

theorem joined_run (weather : Weather E) (l : LoadJob E) (steps : List LoadStep) :
    ∀ i ∈ l.joined, i ∈ (l.run weather steps).joined := by
  induction steps generalizing l with
  | nil => exact fun _ hi => hi
  | cons st rest ih => exact fun i hi => ih _ i (joined_step weather l st i hi)

omit [Entity E] in
theorem mem_joined_join (h : begun.Follows l) (hi : i < begun.parts.length)
    (hleft : l.callsLeft i = 0) : i ∈ (l.join i).joined := by
  obtain ⟨e, he⟩ := Option.isSome_iff_exists.1 (ending?_isSome h hi hleft)
  have hpart := List.getElem?_eq_getElem (h.parts ▸ hi : i < l.parts.length)
  simp only [LoadJob.join, hpart, he]
  split
  · assumption
  · simp

def share (turns i : Nat) : List LoadStep :=
  List.replicate turns (.turn i) ++ [.join i]

/-- A task that has as many turns as it has calls left, and is joined then, stays joined. -/
theorem mem_joined_of_sublist (h : begun.Follows l) (hi : i < begun.parts.length)
    {steps : List LoadStep} {c : Nat} (hleft : l.callsLeft i ≤ c)
    (hs : (share c i).Sublist steps) :
    i ∈ (l.run weather steps).joined := by
  -- A step that is not the task's own, or comes too early, leaves it no more calls than before.
  induction steps generalizing l c with
  | nil => simp [share] at hs
  | cons st rest ih =>
    rcases List.sublist_cons_iff.1 hs with hs | ⟨r, hr, hs⟩
    · exact ih (h.step weather st) (Nat.le_trans (callsLeft_step h weather st i) hleft) hs
    · cases c with
      | zero =>
        obtain ⟨rfl, rfl⟩ := List.cons.inj hr
        exact joined_run weather _ rest i (mem_joined_join h hi (Nat.le_zero.1 hleft))
      | succ c =>
        rw [share, List.replicate_succ, List.cons_append] at hr
        obtain ⟨rfl, rfl⟩ := List.cons.inj hr
        have hturn : (l.turn weather i).callsLeft i ≤ l.callsLeft i - 1 := by
          simpa using callsLeft_turn h weather i i
        exact ih (h.turn weather i) (by rw [step]; omega) hs

/-- Steps in which each task is joined, after turns enough for all its calls. -/
def Fair (l : LoadJob E) (steps : List LoadStep) : Prop :=
  ∀ i < l.parts.length, (share (l.tiers.store.size + 2) i).Sublist steps

omit [Entity E] in
theorem isOver_iff (l : LoadJob E) : l.isOver = true ↔ ∀ i < l.parts.length, i ∈ l.joined := by
  simp [isOver]

theorem isOver_of_fair (map : EntryMap E) (store : RowStore E) (mapName : String)
    (parts : List Span) (weather : Weather E) {steps : List LoadStep}
    (fair : (start map store mapName parts).Fair steps) :
    ((start map store mapName parts).run weather steps).isOver = true := by
  have hf := follows_start map store mapName parts
  refine (isOver_iff _).2 fun i hi => ?_
  rw [(hf.run weather steps).parts] at hi
  refine mem_joined_of_sublist hf hi ?_ (fair i hi)
  obtain ⟨-, hstore, htasks⟩ := tiers_start map store mapName parts
  have hi : i < parts.length := hi
  simp only [callsLeft, htasks, hstore, List.getElem?_map, List.getElem?_eq_getElem hi,
    Option.map_some, Option.getD_some, Progress.callsLeft, RowStore.rowsIn, List.length_map,
    RowStore.size, Table.size]
  exact Nat.add_le_add_right (List.length_filter_le _ _) 2

/-! ### Outcomes by part -/

structure Collected (l : LoadJob E) : Prop where
  outcomes : l.outcomes = l.parts.mapIdx fun i part =>
    .ofEnding ⟨part, l.mapName⟩ (if i ∈ l.joined then ending? l.tiers i else none)
  ended : ∀ i ∈ l.joined, (ending? l.tiers i).isSome = true

theorem ending?_call {s : LoadTiers E} {i j : Nat} {e : Ending Fault Nat} (c : Conduct E)
    (h : ending? s j = some e) : ending? (s.call i c) j = some e := by
  unfold ending? at h ⊢
  split at h
  · cases h
    rename_i hr
    rw [result?_call c hr]
  · cases h

theorem Collected.turn (h : l.Collected) (weather : Weather E) (i : Nat) :
    (l.turn weather i).Collected := by
  unfold LoadJob.turn
  split
  · exact h
  · rename_i w hw
    have kept : ∀ j ∈ l.joined,
        ending? (l.tiers.call i (weather w)) j = ending? l.tiers j := by
      intro j hj
      obtain ⟨e, he⟩ := Option.isSome_iff_exists.1 (h.ended j hj)
      rw [he, ending?_call _ he]
    refine ⟨?_, fun j hj => by rw [kept j hj]; exact h.ended j hj⟩
    refine h.outcomes.trans ?_
    congr 1
    funext j part
    split
    · rw [kept j ‹_›]
    · rfl

omit [Entity E] in
theorem Collected.join (h : l.Collected) (i : Nat) : (l.join i).Collected := by
  unfold LoadJob.join
  split
  · rename_i part e hpart hend
    split
    · exact h
    · refine ⟨?_, fun j hj => ?_⟩
      · refine List.ext_getElem? fun j => ?_
        rw [h.outcomes, List.getElem?_set, List.getElem?_mapIdx]
        by_cases hij : i = j
        · subst hij
          obtain ⟨hlt, rfl⟩ := List.getElem?_eq_some_iff.1 hpart
          simp [hend, hlt]
        · simp [hij, Ne.symm hij]
      · rcases List.mem_append.1 hj with hj | hj
        · exact h.ended j hj
        · rw [List.mem_singleton.1 hj, hend]
          rfl
  · exact h

theorem Collected.run (h : l.Collected) (weather : Weather E) (steps : List LoadStep) :
    (l.run weather steps).Collected := by
  induction steps generalizing l with
  | nil => exact h
  | cons st rest ih =>
    cases st with
    | turn i => exact ih (h.turn weather i)
    | join i => exact ih (h.join i)

theorem collected_start (map : EntryMap E) (store : RowStore E) (mapName : String)
    (parts : List Span) : (start map store mapName parts).Collected := by
  refine ⟨List.ext_getElem? fun i => ?_, fun i hi => (nomatch hi)⟩
  simp [start]

omit [Entity E] in
theorem Collected.outcomes_of_isOver (h : l.Collected) (finished : l.isOver = true) :
    l.outcomes = l.parts.mapIdx fun i part =>
      .ofEnding ⟨part, l.mapName⟩ (ending? l.tiers i) := by
  refine List.ext_getElem? fun i => ?_
  rw [h.outcomes, List.getElem?_mapIdx, List.getElem?_mapIdx]
  cases hpart : l.parts[i]? with
  | none => rfl
  | some part =>
    have hi := (isOver_iff l).1 finished i (List.getElem?_eq_some_iff.1 hpart).1
    simp [hi]

/-! ### One task after the other -/

theorem finishTask_of_none {weather : Weather E} {i : Nat} {s : LoadTiers E}
    (h : s.tasks[i]? >>= Task.work? = none) (fuel : Nat) : finishTask weather i fuel s = s := by
  cases fuel with
  | zero => rfl
  | succ fuel => simp [finishTask, h]

theorem run_replicate_turn (weather : Weather E) (l : LoadJob E) (i fuel : Nat) :
    l.run weather (List.replicate fuel (.turn i)) =
      { l with tiers := finishTask weather i fuel l.tiers } := by
  induction fuel generalizing l with
  | zero => rfl
  | succ fuel ih =>
    rw [List.replicate_succ]
    refine (ih (l.turn weather i)).trans ?_
    cases hw : l.tiers.tasks[i]? >>= Task.work? with
    | none =>
      have hturn : l.turn weather i = l := by simp [LoadJob.turn, hw]
      rw [hturn, finishTask_of_none hw, finishTask_of_none hw]
    | some w => simp [LoadJob.turn, finishTask, hw]

theorem run_append (weather : Weather E) (l : LoadJob E) (as bs : List LoadStep) :
    l.run weather (as ++ bs) = (l.run weather as).run weather bs :=
  List.foldl_append

theorem run_flatMap_turns (weather : Weather E) (l : LoadJob E) (fuel : Nat) (tasks : List Nat) :
    l.run weather (tasks.flatMap fun i => List.replicate fuel (.turn i)) =
      { l with tiers := tasks.foldl (fun t i => finishTask weather i fuel t) l.tiers } := by
  induction tasks generalizing l with
  | nil => rfl
  | cons i rest ih => rw [List.flatMap_cons, run_append, run_replicate_turn, ih, List.foldl_cons]

theorem run_map_join (weather : Weather E) (l : LoadJob E) (tasks : List Nat) :
    l.run weather (tasks.map .join) = tasks.foldl LoadJob.join l := by
  rw [run, List.foldl_map]
  rfl

def stepsOneByOne (l : LoadJob E) : List LoadStep :=
  (List.range l.parts.length).flatMap
      (fun i => List.replicate (l.tiers.store.size + 2) (.turn i)) ++
    (List.range l.parts.length).map .join

omit [Entity E] in
theorem fair_stepsOneByOne (l : LoadJob E) : l.Fair l.stepsOneByOne := by
  intro i hi
  have mem : i ∈ List.range l.parts.length := List.mem_range.2 hi
  refine List.Sublist.append ?_ ?_
  · exact List.sublist_flatten_of_mem (List.mem_map.2 ⟨i, mem, rfl⟩)
  · exact List.singleton_sublist.2 (List.mem_map.2 ⟨i, mem, rfl⟩)

theorem oneByOne_eq_run (h : begun.Follows l) (weather : Weather E) :
    l.oneByOne weather = l.run weather l.stepsOneByOne := by
  rw [stepsOneByOne, run_append, run_flatMap_turns, run_map_join, oneByOne, finish, h.count,
    h.parts]

end LoadJob

end CacheAside
