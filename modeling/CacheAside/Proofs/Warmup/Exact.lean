import Mathlib.Algebra.GroupWithZero.Nat
import Mathlib.Data.List.Basic
import CacheAside.Proofs.Span.Tiling
import CacheAside.Proofs.Store.Keyed
import CacheAside.Proofs.Warmup.Conservation

set_option autoImplicit false

namespace CacheAside

section Rows

variable {E : Type}

def RowStore.countIn (store : RowStore E) (span : Span) : Nat :=
  (store.rows.keys.filter fun key => span.contains key.token).length

theorem RowStore.length_rowsIn (store : RowStore E) (span : Span) :
    (store.rowsIn span.start span.stop).length = store.countIn span := by
  rw [rowsIn, countIn, Table.keys, List.filter_map, List.length_map, List.length_map]
  rfl

variable [Entity E]

def RowStore.entriesIn (store : RowStore E) (span : Span) : List (Key × E) :=
  (store.rows.entries.filter fun r => span.contains r.1.token).map fun r =>
    (r.1, Entity.ensureStamp r.1 r.2)

/-- What a map shows under a key after a load of a span, if it showed something else before. -/
def RowStore.shownAfter (store : RowStore E) (span : Span) (before : Key → Option E) (key : Key) :
    Option E :=
  match store.rows.get? key with
  | some row => if span.contains key.token then some (Entity.ensureStamp key row) else before key
  | none => before key

namespace RowStore

variable {store : RowStore E} {span : Span}

theorem entryOf?_of_mem (h : store.Keyed) {r : Key × E} (hr : r ∈ store.rows.entries) :
    Work.entryOf? r.2 = some (r.1, Entity.ensureStamp r.1 r.2) := by
  have hkey := h r.1 r.2 ((store.rows.mem_entries_iff r.1 r.2).1 hr)
  rw [Work.entryOf?, Entity.stampedRow_of_key hkey]
  rfl

theorem filterMap_rowsIn (h : store.Keyed) (span : Span) :
    (store.rowsIn span.start span.stop).filterMap Work.entryOf? = store.entriesIn span := by
  rw [rowsIn, entriesIn, List.filterMap_map, ← List.filterMap_eq_map]
  exact List.filterMap_congr fun r hr => entryOf?_of_mem h (List.mem_filter.1 hr).1

theorem mem_entriesIn {key : Key} {e : E} :
    (key, e) ∈ store.entriesIn span ↔ ∃ row, store.rows.get? key = some row ∧
      span.contains key.token = true ∧ e = Entity.ensureStamp key row := by
  simp only [entriesIn, List.mem_map, List.mem_filter, Prod.exists, Prod.mk.injEq]
  constructor
  · rintro ⟨k, row, ⟨hmem, hin⟩, rfl, rfl⟩
    exact ⟨row, (store.rows.mem_entries_iff k row).1 hmem, hin, rfl⟩
  · rintro ⟨row, hrow, hin, rfl⟩
    exact ⟨key, row, ⟨(store.rows.mem_entries_iff key row).2 hrow, hin⟩, rfl, rfl⟩

theorem nodup_entriesIn (store : RowStore E) (span : Span) :
    ((store.entriesIn span).map Prod.fst).Nodup := by
  rw [entriesIn, List.map_map]
  exact store.rows.nodup.sublist (List.filter_sublist.map _)

theorem entriesIn_split (store : RowStore E) (span : Span) (n : Nat) :
    ((span.split n).flatMap store.entriesIn).Perm (store.entriesIn span) := by
  have := ((span.tiles_split n).filter_perm (fun r : Key × E => r.1.token) store.rows.entries).map
    fun r => (r.1, Entity.ensureStamp r.1 r.2)
  rw [List.map_flatMap] at this
  exact this

omit [Entity E] in
theorem countIn_split (store : RowStore E) (span : Span) (n : Nat) :
    ((span.split n).map store.countIn).sum = store.countIn span := by
  have := ((span.tiles_split n).filter_perm (fun key : Key => key.token) store.rows.keys).length_eq
  rw [List.length_flatMap] at this
  exact this

/-- A map into which the entries of a span were put, in any order. -/
theorem get?_putAll_entriesIn {map : EntryMap E} (retains : map.policy.retains = true)
    {puts : List (Key × E)} (h : puts.Perm (store.entriesIn span)) (key : Key) :
    (map.putAll puts).get? key = store.shownAfter span map.get? key := by
  have nodup : (puts.map Prod.fst).Nodup := (h.map _).nodup_iff.2 (store.nodup_entriesIn span)
  by_cases hkey : ∃ e, (key, e) ∈ puts
  · obtain ⟨e, he⟩ := hkey
    obtain ⟨row, hrow, hin, rfl⟩ := mem_entriesIn.1 (h.mem_iff.1 he)
    rw [EntryMap.get?_putAll_of_mem retains nodup he]
    simp [shownAfter, hrow, hin]
  · have hout : key ∉ puts.map Prod.fst := by simpa using hkey
    rw [EntryMap.get?_putAll_of_notMem map hout, shownAfter]
    split
    · rename_i row hrow
      rw [if_neg]
      exact fun hin => hkey ⟨_, h.mem_iff.2 (mem_entriesIn.2 ⟨row, hrow, hin, rfl⟩)⟩
    · rfl

end RowStore

end Rows

namespace LoadJob

open Warmup Tiers

variable {E : Type} [Entity E] {map : EntryMap E} {store : RowStore E} {name : String}
  {parts : List Span} {steps : List LoadStep}

theorem left_start (h : store.Keyed) (map : EntryMap E) (name : String) (parts : List Span) :
    (start map store name parts).left store = parts.flatMap store.entriesIn := by
  obtain ⟨-, -, htasks⟩ := tiers_start map store name parts
  rw [LoadJob.left, htasks, List.flatMap_map]
  exact congrArg (List.flatMap · parts) (funext fun part => RowStore.filterMap_rowsIn h part)

theorem conserves_start (h : store.Keyed) (map : EntryMap E) (name : String) (parts : List Span) :
    (start map store name parts).Conserves (start map store name parts) [] := by
  refine ⟨rfl, .refl _, rfl, fun t ht row hrow => ?_⟩
  obtain ⟨-, hstore, htasks⟩ := tiers_start map store name parts
  rw [htasks] at ht
  rw [hstore] at hrow
  obtain ⟨part, -, rfl⟩ := List.mem_map.1 ht
  obtain ⟨r, hr, rfl⟩ := List.mem_map.1 hrow
  simp [RowStore.entryOf?_of_mem h (List.mem_filter.1 hr).1]

theorem Conserves.run {begun l : LoadJob E} {puts : List (Key × E)} (h : begun.Conserves l puts)
    (hf : begun.Follows l) (steps : List LoadStep) :
    begun.Conserves (l.run serving steps) (puts ++ l.puts serving steps) := by
  induction steps generalizing l puts with
  | nil => simpa [LoadJob.run, LoadJob.puts] using h
  | cons st rest ih =>
    rw [LoadJob.puts, ← List.append_assoc]
    refine ih ?_ (hf.step serving st)
    cases st with
    | turn i => exact h.turn hf i
    | join i =>
      have htiers := l.join_tiers i
      simp only [LoadJob.put?, Option.toList_none, List.append_nil, LoadJob.step]
      exact ⟨by rw [htiers, h.map], by rw [LoadJob.left, htiers]; exact h.rows,
        by rw [htiers, h.totals], by rw [htiers]; exact h.sound⟩

omit [Entity E] in
theorem ending?_eq_some_iff {s : LoadTiers E} {i : Nat} {e : Ending Fault Nat} :
    ending? s i = some e ↔
      ∃ client, s.tasks[i]? = some ⟨client, .done (.ok (.loaded e))⟩ := by
  constructor
  · intro h
    unfold ending? at h
    split at h
    · rename_i hr
      cases h
      obtain ⟨⟨client, progress⟩, hi, hp⟩ := Option.bind_eq_some_iff.1 hr
      cases progress with
      | next w => cases hp
      | done r =>
        cases hp
        exact ⟨client, hi⟩
    · cases h
  · rintro ⟨client, hi⟩
    simp [ending?, Tiers.result?, hi, Task.result?]

section Over

variable {begun l : LoadJob E}

omit [Entity E] in
theorem task_of_isOver (follows : begun.Follows l) (collected : l.Collected)
    (finished : l.isOver = true) {i : Nat} (hi : i < begun.parts.length) :
    ∃ client e, l.tiers.tasks[i]? = some ⟨client, .done (.ok (.loaded e))⟩ := by
  have joined := (isOver_iff l).1 finished i (follows.parts ▸ hi)
  obtain ⟨e, he⟩ := Option.isSome_iff_exists.1 (collected.ended i joined)
  obtain ⟨client, htask⟩ := ending?_eq_some_iff.1 he
  exact ⟨client, e, htask⟩

theorem left_of_isOver (follows : begun.Follows l) (collected : l.Collected)
    (finished : l.isOver = true) (store : RowStore E) : l.left store = [] := by
  refine List.flatMap_eq_nil_iff.2 fun t ht => ?_
  obtain ⟨i, hi⟩ := List.mem_iff_getElem?.1 ht
  have hlt := (List.getElem?_eq_some_iff.1 hi).1
  obtain ⟨client, e, htask⟩ := task_of_isOver follows collected finished (follows.count ▸ hlt)
  obtain rfl := Option.some.inj (hi.symm.trans htask)
  rfl

end Over

/-- A load that is over has put the rows of every part, and reports their numbers. -/
theorem exact_of_isOver (h : store.Keyed) (map : EntryMap E) (name : String) (parts : List Span)
    (steps : List LoadStep)
    (finished : ((start map store name parts).run serving steps).isOver = true) :
    let l := (start map store name parts).run serving steps
    let puts := (start map store name parts).puts serving steps
    l.outcomes = (parts.map fun part => ⟨part, .ok (store.countIn part)⟩) ∧
      puts.Perm (parts.flatMap store.entriesIn) ∧ l.tiers.map = map.putAll puts ∧
      l.tiers.store.rows = store.rows := by
  obtain ⟨hmap, hstore, htasks⟩ := tiers_start map store name parts
  have follows := (follows_start map store name parts).run serving steps
  have collected := (collected_start map store name parts).run serving steps
  have conserves := (conserves_start h map name parts).run (follows_start ..) steps
  rw [List.nil_append] at conserves
  refine ⟨?_, ?_, ?_, ?_⟩
  · refine List.ext_getElem? fun i => ?_
    rw [collected.outcomes_of_isOver finished, follows.parts, follows.mapName, List.getElem?_mapIdx,
      List.getElem?_map]
    cases hpart : parts[i]? with
    | none => simp [start, hpart]
    | some part =>
      obtain ⟨client, e, htask⟩ := task_of_isOver follows collected finished
        (List.getElem?_eq_some_iff.1 hpart).1
      have htotal : Progress.total? store (.done (.ok (.loaded e)) : Progress E Unit) =
          some (store.countIn part) := by
        have := congrArg (·[i]?) conserves.totals
        simpa [htask, htasks, hstore, hpart, Progress.total?, store.length_rowsIn] using this
      have hend := ending?_eq_some_iff.2 ⟨client, htask⟩
      rw [hend]
      cases e <;> cases htotal
      simp [start, hpart, RangeOutcome.ofEnding]
  · have rows := conserves.rows
    rwa [left_of_isOver follows collected finished, List.append_nil, hstore, left_start h] at rows
  · exact conserves.map.trans (congrArg (EntryMap.putAll · _) hmap)
  · exact follows.rows.trans (congrArg _ hstore)

end LoadJob

namespace Warmup

variable {Kind : Type} {Val : Kind → Type} [DecidableEq Kind]

/-- What a load of a span has done that ends with the given report, grid and store, and whose tasks
put the given entries on the way: one outcome for each part, in token order, and each entry once
into the map of the name, which is the one there was or a new one. -/
structure Exact {k : Kind} [Entity (Val k)] (g : Grid Kind Val) (store : RowStore (Val k))
    (span : Span) (name : String) (splits : Nat) (puts : List (Key × Val k))
    (ended : LoadReport × Grid Kind Val × RowStore (Val k)) : Prop where
  outcomes : ended.1.outcomes =
    (span.split splits).map fun part => ⟨part, .ok (store.countIn part)⟩
  tiles : Span.Tiles span.start (span.split splits) span.stop
  loaded : ended.1.loaded = store.countIn span
  skippedLast : ended.1.skippedLast = true ↔ span.stop = Int64.maxValue
  put : ∃ (h : Handle k) (map : EntryMap (Val k)), (∀ key, map.get? key = g.valueAt? name k key) ∧
    ended.2.1.find? name k = some (.ok h) ∧ ended.2.1.map? h = some (map.putAll puts)
  shown : ∀ key, ended.2.1.valueAt? name k key = store.shownAfter span (g.valueAt? name k) key
  once : puts.Perm (store.entriesIn span)
  own : ∀ p ∈ puts, ∃ row, store.rows.get? p.1 = some row ∧ Entity.key row = .ok p.1 ∧
    p.2 = Entity.ensureStamp p.1 row
  stamped : LawfulEntity (Val k) → ∀ p ∈ puts, Entity.stamped? p.2 = some p.1
  below : ∀ p ∈ puts, p.1.token ≠ Int64.maxValue
  rows : ended.2.2.rows = store.rows

theorem openLoad_eq (k : Kind) [Entity (Val k)] {g : Grid Kind Val} (store : RowStore (Val k))
    (span : Span) {name : String} (splits : Nat) (takes : g.Takes name k) :
    ∃ h map g₁, openLoad k g store span name splits =
        (.ok (h, .start map store name (span.split splits)), g₁) ∧
      g₁.find? name k = some (.ok h) ∧ g₁.map? h = some map ∧ map.policy.retains = true ∧
      ∀ key, map.get? key = g.valueAt? name k key := by
  obtain ⟨h, map, g₁, hopen, hfind, hmap, retains, hget⟩ := Grid.openMap_configure takes
  refine ⟨h, map, g₁, ?_, hfind, hmap, retains, hget⟩
  simp [openLoad, hopen, hmap]

/-- A load opens its map and comes to its end, also if its tasks run one after the other; and
in whatever order they make their calls and are joined, the load is exact. -/
theorem load_exact (k : Kind) [Entity (Val k)] (g : Grid Kind Val) {store : RowStore (Val k)}
    (built : store.Built) (span : Span) (name : String) (splits : Nat) (takes : g.Takes name k) :
    ∃ h l g₁, openLoad k g store span name splits = (.ok (h, l), g₁) ∧
      (∀ steps, l.Fair steps → (l.run serving steps).isOver = true) ∧
      (∃ steps, l.Fair steps ∧
        let ended := closeLoad g₁ span h (l.run serving steps)
        load k serving g store span name splits = (.ok ended.1, ended.2.1, ended.2.2)) ∧
      ∀ steps, (l.run serving steps).isOver = true →
        Exact g store span name splits (l.puts serving steps)
          (closeLoad g₁ span h (l.run serving steps)) := by
  obtain ⟨h, map, g₁, hopen, hfind, hmap, retains, hget⟩ := openLoad_eq k store span splits takes
  refine ⟨h, _, g₁, hopen, fun steps fair => LoadJob.isOver_of_fair _ _ _ _ _ fair,
    ⟨_, LoadJob.fair_stepsOneByOne _, ?_⟩, fun steps finished => ?_⟩
  · simp only [load, hopen, LoadJob.oneByOne_eq_run (LoadJob.follows_start ..)]
  · obtain ⟨houtcomes, hputs, hmap', hrows⟩ :=
      LoadJob.exact_of_isOver built.keyed map name (span.split splits) steps finished
    have once := hputs.trans (store.entriesIn_split span splits)
    have row_of_put {p} (hp : p ∈ LoadJob.puts serving (.start map store name _) steps) :=
      RowStore.mem_entriesIn.1 (once.mem_iff.1 hp)
    refine ⟨houtcomes, span.tiles_split splits, ?_, ?_, ⟨h, map, hget, hfind, ?_⟩, fun key => ?_,
      once, fun p hp => ?_, fun lawful p hp => ?_, fun p hp => ?_, hrows⟩
    · rw [LoadReport.loaded, closeLoad, LoadJob.report, houtcomes, List.map_map]
      exact store.countIn_split span splits
    · simp [closeLoad, LoadJob.report, Span.excludesLast]
    · rw [closeLoad, Grid.map?_updateMap, hmap, hmap', Option.map_some]
    · rw [closeLoad, Grid.valueAt?_updateMap hfind hmap, hmap',
        RowStore.get?_putAll_entriesIn retains once, funext hget]
    · obtain ⟨row, hrow, -, heq⟩ := row_of_put hp
      exact ⟨row, hrow, built.keyed p.1 row hrow, heq⟩
    · obtain ⟨row, hrow, -, heq⟩ := row_of_put hp
      rw [heq, Entity.stamped?_ensureStamp (built.keyed p.1 row hrow)]
    · obtain ⟨row, -, hin, -⟩ := row_of_put hp
      intro hlast
      rw [hlast, Span.not_contains_maxValue] at hin
      cases hin

namespace Ahead

def item (token : Int64) : Item :=
  ⟨[], some ⟨token⟩, "row"⟩

def store : RowStore Item :=
  ((RowStore.empty : RowStore Item).seed [item 1, item 7, item 9]).2

def span : Span :=
  ⟨0, 9, by decide⟩

def grid : Grid Unit fun _ => Item :=
  .create .standard

def steps : List LoadStep :=
  [.turn 1, .turn 0, .turn 1, .turn 0, .turn 1, .join 1, .join 0, .turn 0, .join 0]

theorem two_loaded :
    store.Built ∧ grid.Takes "items" () ∧
      ∃ h l g₁, openLoad () grid store span "items" 2 = (.ok (h, l), g₁) ∧
        (l.run serving steps).isOver = true ∧
        (closeLoad g₁ span h (l.run serving steps)).1.loaded = 2 := by
  have built : store.Built := .seed .empty _
  have takes : grid.Takes "items" () := .inl rfl
  obtain ⟨h, l, g₁, hopen, -, -, all⟩ := load_exact () grid built span "items" 2 takes
  have finished : (l.run serving steps).isOver = true := by
    cases hopen
    decide
  exact ⟨built, takes, h, l, g₁, hopen, finished, (all steps finished).loaded⟩

end Ahead

end Warmup

end CacheAside
