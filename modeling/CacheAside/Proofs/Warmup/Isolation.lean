import CacheAside.Proofs.Warmup.Exact
/-!
Loads in any weather. How the calls for a part are met decides, by itself, what the load of the
part puts and how it ends: the calls go on up to the first that is not served. This is so in
whatever order the tasks make their calls and are joined, so a part that fails takes nothing from
the others.
-/

set_option autoImplicit false

namespace CacheAside

variable {E Out : Type}

/-! ### The calls for a part -/

def Conduct.mishap? : Conduct E → Option (Ending Fault Nat)
  | .fail f => some (.error f)
  | .crash text => some (.crash text)
  | .serve | .refuse | .answer _ => none

theorem Conduct.ne_value_of_mishap? {c : Conduct E} {e : Ending Fault Nat}
    (h : c.mishap? = some e) (n : Nat) : e ≠ .value n := by
  cases c <;> cases h <;> exact fun h => nomatch h

def Work.feeds (span : Span) : List E → Nat → List (Work E Out)
  | [], count => [.feed span [] count]
  | row :: rest, count => .feed span (row :: rest) count :: feeds span rest (count + 1)

/-- The calls that load a span if all of them are served. -/
def RowStore.callsFor (store : RowStore E) (span : Span) : List (Work E Out) :=
  .scan span :: Work.feeds span (store.rowsIn span.start span.stop) 0

namespace Warmup

def fails (weather : Weather E) (store : RowStore E) (span : Span) : Bool :=
  (store.callsFor span).any fun w => (weather w).mishap?.isSome

/-- How the load of a span ends: by the first call that is not served, else with all its rows. -/
def fate (weather : Weather E) (store : RowStore E) (span : Span) : Ending Fault Nat :=
  ((store.callsFor span).findSome? fun w => (weather w).mishap?).getD
    (.value (store.countIn span))

def outcomeOf (weather : Weather E) (store : RowStore E) (name : String) (part : Span) :
    RangeOutcome :=
  .ofEnding ⟨part, name⟩ (some (fate weather store part))

def putsOf [Entity E] (weather : Weather E) (calls : List (Work E Unit)) : List (Key × E) :=
  (calls.takeWhile fun w => (weather w).mishap?.isNone).filterMap fun w => w.put? (weather w)

/-- The entries of the rows that the load of a span gets accepted. -/
def accepted [Entity E] (weather : Weather E) (store : RowStore E) (span : Span) :
    List (Key × E) :=
  putsOf weather (store.callsFor span)

variable {weather : Weather E} {store : RowStore E} {span : Span}

theorem fails_eq_false_iff :
    fails weather store span = false ↔
      ∀ w ∈ store.callsFor span, (weather w).mishap? = none := by
  simp [fails]

theorem fate_of_served (h : fails weather store span = false) :
    fate weather store span = .value (store.countIn span) := by
  rw [fate, List.findSome?_eq_none_iff.2 (fails_eq_false_iff.1 h), Option.getD_none]

theorem span_outcomeOf (weather : Weather E) (store : RowStore E) (name : String)
    (part : Span) : (outcomeOf weather store name part).span = part := by
  unfold outcomeOf
  cases fate weather store part <;> rfl

theorem count_of_isFailure {o : RangeOutcome} (h : o.isFailure = true) : o.count = 0 := by
  obtain ⟨span, n | text⟩ := o
  · rfl
  · exact nomatch h

theorem outcomeOf_of_served (name : String) (h : fails weather store span = false) :
    outcomeOf weather store name span = ⟨span, .ok (store.countIn span)⟩ := by
  rw [outcomeOf, fate_of_served h, RangeOutcome.ofEnding]

theorem isFailure_outcomeOf (weather : Weather E) (store : RowStore E) (name : String)
    (part : Span) : (outcomeOf weather store name part).isFailure = fails weather store part := by
  cases h : fails weather store part with
  | false => rw [outcomeOf_of_served name h, RangeOutcome.isFailure]
  | true =>
    obtain ⟨w, hw, hsome⟩ := List.any_eq_true.1 h
    obtain ⟨e, he⟩ := Option.isSome_iff_exists.1
      (List.findSome?_isSome_iff (f := fun w => (weather w).mishap?).2 ⟨w, hw, hsome⟩)
    obtain ⟨v, -, hv⟩ := List.exists_of_findSome?_eq_some he
    have hfate : fate weather store part = e := by rw [fate, he, Option.getD_some]
    rw [outcomeOf, hfate]
    cases e with
    | value n => exact absurd rfl (Conduct.ne_value_of_mishap? hv n)
    | error f => rfl
    | crash text => rfl

variable [Entity E]

@[simp] theorem putsOf_nil (weather : Weather E) : putsOf weather [] = [] := rfl

theorem putsOf_cons (weather : Weather E) (w : Work E Unit) (calls : List (Work E Unit)) :
    putsOf weather (w :: calls) =
      if (weather w).mishap?.isSome then []
      else (w.put? (weather w)).toList ++ putsOf weather calls := by
  cases h : (weather w).mishap? with
  | some e => simp [putsOf, h]
  | none => cases hp : w.put? (weather w) <;> simp [putsOf, h, hp]

theorem put?_feed (span : Span) (row : E) (rest : List E) (count : Nat) {c : Conduct E}
    (h : c.mishap? = none) :
    (Work.feed span (row :: rest) count : Work E Out).put? c = Work.entryOf? row := by
  cases c <;> first | rfl | exact nomatch h

theorem putsOf_feeds (weather : Weather E) (span : Span) (rows : List E) (count : Nat) :
    putsOf weather (Work.feeds span rows count) <+: rows.filterMap Work.entryOf? ∧
      ((∀ w ∈ Work.feeds span rows count, (weather w).mishap? = none) →
        putsOf weather (Work.feeds span rows count) = rows.filterMap Work.entryOf?) := by
  induction rows generalizing count with
  | nil => simp [Work.feeds, putsOf_cons, Work.put?]
  | cons row rest ih =>
    obtain ⟨before, all⟩ := ih (count + 1)
    rw [Work.feeds, putsOf_cons]
    cases h : (weather (.feed span (row :: rest) count)).mishap? with
    | some e => simp [h]
    | none =>
      have hrows : (row :: rest).filterMap Work.entryOf? =
          (Work.entryOf? row).toList ++ rest.filterMap Work.entryOf? := by
        cases hr : Work.entryOf? row <;> simp [hr]
      rw [put?_feed span row rest count h, hrows]
      refine ⟨by simpa using before, fun hall => ?_⟩
      rw [all fun w hw => hall w (List.mem_cons_of_mem _ hw)]
      simp

theorem accepted_initial (h : store.Keyed) (weather : Weather E) (span : Span) :
    accepted weather store span <+: store.entriesIn span := by
  rw [accepted, RowStore.callsFor, putsOf_cons]
  split
  · exact List.nil_prefix
  · rw [← RowStore.filterMap_rowsIn h]
    exact (putsOf_feeds ..).1

theorem accepted_of_served (h : store.Keyed) (hserved : fails weather store span = false) :
    accepted weather store span = store.entriesIn span := by
  have all := fails_eq_false_iff.1 hserved
  rw [RowStore.callsFor] at all
  rw [accepted, RowStore.callsFor, putsOf_cons, all _ List.mem_cons_self,
    ← RowStore.filterMap_rowsIn h]
  exact (putsOf_feeds ..).2 fun w hw => all w (List.mem_cons_of_mem _ hw)

end Warmup

/-! ### The calls ahead -/

namespace Progress

open Warmup

/-- The calls that a task of a load has to make if all of them are served. -/
def callsAhead (store : RowStore E) : Progress E Out → List (Work E Out)
  | .next (.scan span) => store.callsFor span
  | .next (.feed span rest count) => Work.feeds span rest count
  | _ => []

def fate? (weather : Weather E) (store : RowStore E) (p : Progress E Unit) :
    Option (Ending Fault Nat) :=
  match p with
  | .done (.ok (.loaded e)) => some e
  | _ => ((p.callsAhead store).findSome? fun w => (weather w).mishap?).or
      ((p.total? store).map .value)

theorem fate?_next (weather : Weather E) (store : RowStore E) (w : Work E Unit) :
    (Progress.next w).fate? weather store =
      (((Progress.next w).callsAhead store).findSome? fun w => (weather w).mishap?).or
        (((Progress.next w).total? store).map .value) := rfl

theorem fate?_loaded (weather : Weather E) (store : RowStore E) (e : Ending Fault Nat) :
    (Progress.done (.ok (.loaded e)) : Progress E Unit).fate? weather store = some e := rfl

theorem fate?_scan (weather : Weather E) (store : RowStore E) (span : Span) :
    (Progress.next (.scan span)).fate? weather store = some (fate weather store span) := by
  simp only [fate?_next, callsAhead, total?, fate, store.length_rowsIn]
  cases (store.callsFor span).findSome? fun w => (weather w).mishap? <;> rfl

end Progress

namespace Work

open Warmup

variable [Entity E] {w : Work E Unit} (number : Nat) (listening : Bool) (map : EntryMap E)
  (store : RowStore E) {c : Conduct E}

theorem advance_of_mishap (hw : w.IsLoad) {e : Ending Fault Nat} (h : c.mishap? = some e) :
    (w.advance number listening map store c).progress = .done (.ok (.loaded e)) ∧
      w.put? c = none := by
  cases w with
  | scan span => cases c <;> cases h <;> exact ⟨rfl, rfl⟩
  | feed span rest count => cases c <;> cases h <;> cases rest <;> exact ⟨rfl, rfl⟩
  | _ => exact hw.elim

theorem advance_of_served (hw : w.IsLoad) (h : c.mishap? = none) :
    w.advance number listening map store c = w.advance number listening map store .serve ∧
      w.put? c = w.put? .serve := by
  cases w with
  | scan span => cases c <;> first | exact ⟨rfl, rfl⟩ | exact nomatch h
  | feed span rest count =>
    cases c <;> cases rest <;> first | exact ⟨rfl, rfl⟩ | exact nomatch h
  | _ => exact hw.elim

theorem callsAhead_advance (hw : w.IsLoad) {at₀ : RowStore E} (hrows : store.rows = at₀.rows)
    (sound : ∀ row ∈ (Progress.next w).left at₀, (entryOf? row).isSome = true) :
    let m := w.advance number listening map store .serve
    (Progress.next w).callsAhead at₀ = w :: m.progress.callsAhead at₀ ∧
      ∀ weather, m.progress.fate? weather at₀ =
        ((m.progress.callsAhead at₀).findSome? fun w => (weather w).mishap?).or
          ((m.progress.total? at₀).map .value) := by
  cases w with
  | scan span =>
    have hrows := RowStore.rowsIn_congr hrows span.start span.stop
    simp [advance, Progress.fate?, Progress.callsAhead, RowStore.callsFor, hrows]
  | feed span rest count =>
    cases rest with
    | nil => simp [advance, Progress.fate?, Progress.callsAhead, Progress.total?, feeds]
    | cons row rest =>
      cases hrow : stampedRow row with
      | error f =>
        have := sound row (List.mem_cons_self ..)
        simp [entryOf?, hrow, Except.toOption] at this
      | ok p => simp [advance, hrow, Progress.fate?, Progress.callsAhead, feeds]
  | _ => exact hw.elim

/-- A call puts the first of the entries that are ahead, and the fate of its task stands. -/
theorem advance_ahead (weather : Weather E) (hw : w.IsLoad) {at₀ : RowStore E}
    (hrows : store.rows = at₀.rows)
    (sound : ∀ row ∈ (Progress.next w).left at₀, (entryOf? row).isSome = true) :
    let m := w.advance number listening map store (weather w)
    m.progress.fate? weather at₀ = (Progress.next w).fate? weather at₀ ∧
      putsOf weather ((Progress.next w).callsAhead at₀) =
        (w.put? (weather w)).toList ++ putsOf weather (m.progress.callsAhead at₀) ∧
      ∀ row ∈ m.progress.left at₀, row ∈ (Progress.next w).left at₀ := by
  obtain ⟨hcalls, hfate⟩ := callsAhead_advance number listening map store hw hrows sound
  cases h : (weather w).mishap? with
  | some e =>
    obtain ⟨hprog, hput⟩ := advance_of_mishap number listening map store hw h
    dsimp only
    rw [hprog, hput, Progress.fate?_next, hcalls, putsOf_cons, h]
    simp [h, Progress.fate?, Progress.callsAhead, Progress.left]
  | none =>
    obtain ⟨hserve, hput⟩ := advance_of_served number listening map store hw h
    obtain ⟨htotal, -, hleft⟩ := advance_served number listening map store hw hrows sound
    dsimp only
    rw [hserve, hput]
    refine ⟨?_, ?_, hleft⟩
    · rw [hfate, htotal, Progress.fate?_next, hcalls, List.findSome?_cons, h]
    · rw [hcalls, putsOf_cons, h, hput]
      rfl

end Work

/-! ### Whole loads -/

namespace LoadJob

open Warmup Tiers

variable [Entity E] {weather : Weather E} {begun l : LoadJob E} {puts : List (Key × E)}
  {store : RowStore E}

def ahead (weather : Weather E) (store : RowStore E) (l : LoadJob E) : List (Key × E) :=
  l.tiers.tasks.flatMap fun t => putsOf weather (t.progress.callsAhead store)

/-- The map has what was put, what was put and what is ahead are what was ahead at first, and every
task has the fate that it had at first. -/
structure Foretold (weather : Weather E) (begun l : LoadJob E) (puts : List (Key × E)) : Prop where
  map : l.tiers.map = begun.tiers.map.putAll puts
  rows : (puts ++ l.ahead weather begun.tiers.store).Perm (begun.ahead weather begun.tiers.store)
  fates : l.tiers.tasks.map (fun t => t.progress.fate? weather begun.tiers.store) =
    begun.tiers.tasks.map (fun t => t.progress.fate? weather begun.tiers.store)
  sound : ∀ t ∈ l.tiers.tasks, ∀ row ∈ t.progress.left begun.tiers.store,
    (Work.entryOf? row).isSome = true

theorem Foretold.turn (h : begun.Foretold weather l puts) (hf : begun.Follows l) (i : Nat) :
    begun.Foretold weather (l.turn weather i) (puts ++ (l.put? weather (.turn i)).toList) := by
  rcases turn_cases hf weather i with ⟨hno, hl⟩ | ⟨client, w, hi, hload, htasks, hmap, -, -⟩
  · rw [hl, put?_turn_of_not_due weather hno]
    simpa using h
  · have hmem := List.mem_of_getElem? hi
    obtain ⟨hfate, hahead, hsub⟩ := Work.advance_ahead i client.listener.isSome l.tiers.map
      l.tiers.store weather hload hf.rows (h.sound _ hmem)
    rw [put?_turn_of_due weather hi]
    refine ⟨?_, ?_, ?_, fun t ht => ?_⟩
    · rw [hmap, Work.map_advance_load _ _ _ _ hload, h.map, EntryMap.putAll_append]
    · rw [ahead, htasks, List.append_assoc]
      exact ((flatMap_set_perm hi hahead).append_left puts).trans h.rows
    · rw [htasks, map_set_of_eq hi hfate, h.fates]
    · rw [htasks] at ht
      rcases List.mem_or_eq_of_mem_set ht with ht | rfl
      · exact h.sound t ht
      · exact fun row hrow => h.sound _ hmem row (hsub row hrow)

theorem Foretold.run (h : begun.Foretold weather l puts) (hf : begun.Follows l)
    (steps : List LoadStep) :
    begun.Foretold weather (l.run weather steps) (puts ++ l.puts weather steps) := by
  induction steps generalizing l puts with
  | nil => simpa [LoadJob.run, LoadJob.puts] using h
  | cons st rest ih =>
    rw [LoadJob.puts, ← List.append_assoc]
    refine ih ?_ (hf.step weather st)
    cases st with
    | turn i => exact h.turn hf i
    | join i =>
      have htiers := l.join_tiers i
      simp only [LoadJob.put?, Option.toList_none, List.append_nil, LoadJob.step]
      exact ⟨by rw [htiers, h.map], by rw [ahead, htiers]; exact h.rows,
        by rw [htiers, h.fates], by rw [htiers]; exact h.sound⟩

theorem foretold_start (h : store.Keyed) (weather : Weather E) (map : EntryMap E) (name : String)
    (parts : List Span) :
    (start map store name parts).Foretold weather (start map store name parts) [] :=
  ⟨rfl, .refl _, rfl, (conserves_start h map name parts).sound⟩

theorem ahead_start (weather : Weather E) (map : EntryMap E) (store : RowStore E) (name : String)
    (parts : List Span) :
    (start map store name parts).ahead weather store = parts.flatMap (accepted weather store) := by
  obtain ⟨-, -, htasks⟩ := tiers_start map store name parts
  rw [ahead, htasks, List.flatMap_map]
  rfl

theorem ahead_of_isOver (follows : begun.Follows l) (collected : l.Collected)
    (finished : l.isOver = true) (store : RowStore E) : l.ahead weather store = [] := by
  refine List.flatMap_eq_nil_iff.2 fun t ht => ?_
  obtain ⟨i, hi⟩ := List.mem_iff_getElem?.1 ht
  have hlt := (List.getElem?_eq_some_iff.1 hi).1
  obtain ⟨client, e, htask⟩ := task_of_isOver follows collected finished (follows.count ▸ hlt)
  obtain rfl := Option.some.inj (hi.symm.trans htask)
  rfl

/-- A load that is over has come out as each part would by itself. -/
theorem foretold_of_isOver (h : store.Keyed) (weather : Weather E) (map : EntryMap E)
    (name : String) (parts : List Span) (steps : List LoadStep)
    (finished : ((start map store name parts).run weather steps).isOver = true) :
    let l := (start map store name parts).run weather steps
    let puts := (start map store name parts).puts weather steps
    l.outcomes = parts.map (outcomeOf weather store name) ∧
      puts.Perm (parts.flatMap (accepted weather store)) ∧ l.tiers.map = map.putAll puts ∧
      l.tiers.store.rows = store.rows := by
  obtain ⟨hmap, hstore, htasks⟩ := tiers_start map store name parts
  have follows := (follows_start map store name parts).run weather steps
  have collected := (collected_start map store name parts).run weather steps
  have foretold := (foretold_start h weather map name parts).run (follows_start ..) steps
  rw [List.nil_append] at foretold
  refine ⟨?_, ?_, ?_, ?_⟩
  · refine List.ext_getElem? fun i => ?_
    rw [collected.outcomes_of_isOver finished, follows.parts, follows.mapName, List.getElem?_mapIdx,
      List.getElem?_map]
    cases hpart : parts[i]? with
    | none => simp [start, hpart]
    | some part =>
      obtain ⟨client, e, htask⟩ := task_of_isOver follows collected finished
        (List.getElem?_eq_some_iff.1 hpart).1
      have hfate : e = fate weather store part := by
        have := congrArg (·[i]?) foretold.fates
        simpa [htask, htasks, hstore, hpart, Progress.fate?_scan, Progress.fate?_loaded] using this
      rw [ending?_eq_some_iff.2 ⟨client, htask⟩, hfate]
      simp [start, hpart, outcomeOf]
  · have rows := foretold.rows
    rwa [ahead_of_isOver follows collected finished, List.append_nil, hstore, ahead_start] at rows
  · exact foretold.map.trans (congrArg (EntryMap.putAll · _) hmap)
  · exact follows.rows.trans (congrArg _ hstore)

end LoadJob

/-! ### Loads of a span into a grid -/

namespace Warmup

section Rows

variable {E : Type} [Entity E] {weather : Weather E} {store : RowStore E} {span part : Span}
  {splits : Nat}

theorem nodup_accepted_split (h : store.Keyed) (weather : Weather E) (span : Span) (splits : Nat) :
    (((span.split splits).flatMap (accepted weather store)).map Prod.fst).Nodup := by
  have sub : ∀ parts : List Span, (parts.flatMap (accepted weather store)).Sublist
      (parts.flatMap store.entriesIn) := by
    intro parts
    induction parts with
    | nil => exact .slnil
    | cons part rest ih =>
      rw [List.flatMap_cons, List.flatMap_cons]
      exact (accepted_initial h weather part).sublist.append ih
  refine List.Nodup.sublist ((sub _).map Prod.fst) ?_
  exact ((store.entriesIn_split span splits).map Prod.fst).nodup_iff.2
    (store.nodup_entriesIn span)

theorem contains_of_mem_accepted (h : store.Keyed) {key : Key} {e : E}
    (he : (key, e) ∈ accepted weather store part) : part.contains key.token = true := by
  obtain ⟨-, -, hin, -⟩ := RowStore.mem_entriesIn.1 ((accepted_initial h weather part).mem he)
  exact hin

theorem lookup_accepted_split (h : store.Keyed) (hpart : part ∈ span.split splits) {key : Key}
    (hin : part.contains key.token = true) :
    Table.lookup key ((span.split splits).flatMap (accepted weather store)) =
      Table.lookup key (accepted weather store part) := by
  have nodup := nodup_accepted_split h weather span splits
  have sub : (accepted weather store part).Sublist
      ((span.split splits).flatMap (accepted weather store)) :=
    List.sublist_flatten_of_mem (List.mem_map.2 ⟨part, hpart, rfl⟩)
  refine Option.ext fun e => ?_
  rw [Table.lookup_eq_some_iff nodup, Table.lookup_eq_some_iff (nodup.sublist (sub.map Prod.fst))]
  refine ⟨fun he => ?_, fun he => sub.subset he⟩
  -- A part that gets a row of the key accepted holds its token, so it is this part.
  obtain ⟨other, hother, he⟩ := List.mem_flatMap.1 he
  rwa [(span.tiles_split splits).eq_of_contains hpart hother hin (contains_of_mem_accepted h he)]

end Rows

theorem get?_putAll_perm {E : Type} {map : EntryMap E} (retains : map.policy.retains = true)
    {puts entries : List (Key × E)} (h : puts.Perm entries)
    (nodup : (entries.map Prod.fst).Nodup) (key : Key) :
    (map.putAll puts).get? key = (Table.lookup key entries).or (map.get? key) := by
  cases he : Table.lookup key entries with
  | some e =>
    have mem := h.mem_iff.2 ((Table.lookup_eq_some_iff nodup key e).1 he)
    rw [EntryMap.get?_putAll_of_mem retains ((h.map _).nodup_iff.2 nodup) mem, Option.some_or]
  | none =>
    have hout : key ∉ puts.map Prod.fst := by
      intro hmem
      obtain ⟨⟨l, e⟩, hp, rfl⟩ := List.mem_map.1 hmem
      have := (Table.lookup_eq_some_iff nodup l e).2 (h.mem_iff.1 hp)
      simp [this] at he
    rw [EntryMap.get?_putAll_of_notMem map hout, Option.none_or]

variable {Kind : Type} {Val : Kind → Type} [DecidableEq Kind]

/-- What a load of a span in some weather has done that ends with the given report, grid and store,
and whose tasks put the given entries on the way. A part has the outcome that it has if its task
runs alone, and of its accepted rows, which are the first ones, the map has the entries. -/
structure Isolated {k : Kind} [Entity (Val k)] (weather : Weather (Val k)) (g : Grid Kind Val)
    (store : RowStore (Val k)) (span : Span) (name : String) (splits : Nat)
    (puts : List (Key × Val k)) (ended : LoadReport × Grid Kind Val × RowStore (Val k)) :
    Prop where
  outcomes : ended.1.outcomes = (span.split splits).map (outcomeOf weather store name)
  tiles : Span.Tiles span.start (span.split splits) span.stop
  alone : ∀ part ∈ span.split splits, ∀ (map : EntryMap (Val k)) (steps : List LoadStep),
    ((LoadJob.start map store name [part]).run weather steps).isOver = true →
      ((LoadJob.start map store name [part]).run weather steps).outcomes =
        [outcomeOf weather store name part]
  served : ∀ part ∈ span.split splits, fails weather store part = false →
    outcomeOf weather store name part = ⟨part, .ok (store.countIn part)⟩ ∧
      ∀ key row, store.rows.get? key = some row → part.contains key.token = true →
        ended.2.1.valueAt? name k key = some (Entity.ensureStamp key row)
  failed : ∀ part ∈ span.split splits, fails weather store part = true →
    (outcomeOf weather store name part).isFailure = true ∧
      (outcomeOf weather store name part).count = 0
  first : ∀ part ∈ span.split splits, accepted weather store part <+: store.entriesIn part
  shown : ∀ part ∈ span.split splits, ∀ key, part.contains key.token = true →
    ended.2.1.valueAt? name k key =
      (Table.lookup key (accepted weather store part)).or (g.valueAt? name k key)
  beyond : ∀ key, span.contains key.token = false →
    ended.2.1.valueAt? name k key = g.valueAt? name k key
  once : puts.Perm ((span.split splits).flatMap (accepted weather store))
  loaded : ended.1.loaded =
    (((span.split splits).filter fun part => !fails weather store part).map store.countIn).sum
  failures : ended.1.failures.map RangeOutcome.span =
    (span.split splits).filter (fails weather store)
  complete : ended.1.isComplete = true ↔
    ∀ part ∈ span.split splits, fails weather store part = false
  rows : ended.2.2.rows = store.rows

section Reports

variable {E : Type} (weather : Weather E) (store : RowStore E) (name : String)

theorem sum_count_outcomeOf (parts : List Span) :
    ((parts.map (outcomeOf weather store name)).map RangeOutcome.count).foldr (· + ·) 0 =
      ((parts.filter fun part => !fails weather store part).map store.countIn).sum := by
  induction parts with
  | nil => rfl
  | cons part rest ih =>
    rw [List.map_cons, List.map_cons, List.foldr_cons, ih]
    cases h : fails weather store part with
    | true => simp [h, count_of_isFailure ((isFailure_outcomeOf ..).trans h)]
    | false => simp [h, outcomeOf_of_served name h, RangeOutcome.count]

theorem filter_isFailure_outcomeOf (parts : List Span) :
    ((parts.map (outcomeOf weather store name)).filter RangeOutcome.isFailure).map
      RangeOutcome.span = parts.filter (fails weather store) := by
  rw [List.filter_map, List.map_map]
  have hspan : RangeOutcome.span ∘ outcomeOf weather store name = id :=
    funext (span_outcomeOf weather store name)
  have hfails : RangeOutcome.isFailure ∘ outcomeOf weather store name = fails weather store :=
    funext (isFailure_outcomeOf weather store name)
  rw [hspan, hfails, List.map_id]

end Reports

theorem isolated_of_parts {k : Kind} [Entity (Val k)] {weather : Weather (Val k)}
    {g : Grid Kind Val} {store : RowStore (Val k)} {span : Span} {name : String} {splits : Nat}
    {puts : List (Key × Val k)} {ended : LoadReport × Grid Kind Val × RowStore (Val k)}
    (keyed : store.Keyed)
    (outcomes : ended.1.outcomes = (span.split splits).map (outcomeOf weather store name))
    (once : puts.Perm ((span.split splits).flatMap (accepted weather store)))
    (entries : ∀ key, ended.2.1.valueAt? name k key =
      (Table.lookup key ((span.split splits).flatMap (accepted weather store))).or
        (g.valueAt? name k key))
    (rows : ended.2.2.rows = store.rows) :
    Isolated weather g store span name splits puts ended := by
  have shown : ∀ part ∈ span.split splits, ∀ key, part.contains key.token = true →
      ended.2.1.valueAt? name k key =
        (Table.lookup key (accepted weather store part)).or (g.valueAt? name k key) := by
    intro part hpart key hin
    rw [entries, lookup_accepted_split keyed hpart hin]
  refine {
    outcomes, once, rows, shown
    tiles := span.tiles_split splits
    alone := fun part _ map steps finished => ?_
    served := fun part hpart hserved =>
      ⟨outcomeOf_of_served name hserved, fun key row hrow hin => ?_⟩
    failed := fun part _ hfails => ?_
    first := fun part _ => accepted_initial keyed weather part
    beyond := fun key hout => ?_
    loaded := ?_
    failures := ?_
    complete := ?_ }
  · exact (LoadJob.foretold_of_isOver keyed weather map name [part] steps finished).1
  · have mem : (key, Entity.ensureStamp key row) ∈ accepted weather store part := by
      rw [accepted_of_served keyed hserved]
      exact RowStore.mem_entriesIn.2 ⟨row, hrow, hin, rfl⟩
    have nodup := ((accepted_initial keyed weather part).sublist.map Prod.fst).nodup
      (store.nodup_entriesIn part)
    rw [shown part hpart key hin, (Table.lookup_eq_some_iff nodup _ _).2 mem, Option.some_or]
  · have failure := (isFailure_outcomeOf weather store name part).trans hfails
    exact ⟨failure, count_of_isFailure failure⟩
  · rw [entries]
    cases he : Table.lookup key ((span.split splits).flatMap (accepted weather store)) with
    | none => rfl
    | some e =>
      have nodup := nodup_accepted_split keyed weather span splits
      have mem := (Table.lookup_eq_some_iff nodup key e).1 he
      obtain ⟨part, hpart, hmem⟩ := List.mem_flatMap.1 mem
      have hall := (store.entriesIn_split span splits).mem_iff.1
        (List.mem_flatMap.2 ⟨part, hpart, (accepted_initial keyed weather part).mem hmem⟩)
      obtain ⟨-, -, hin, -⟩ := RowStore.mem_entriesIn.1 hall
      simp [hin] at hout
  · rw [LoadReport.loaded, outcomes, sum_count_outcomeOf]
  · rw [LoadReport.failures, outcomes, filter_isFailure_outcomeOf]
  · rw [LoadReport.isComplete_iff, outcomes]
    simp [isFailure_outcomeOf]

/-- A load opens its map and comes to its end, also if its tasks run one after the other; and in
whatever order they make their calls and are joined, no part is touched by what befalls another. -/
theorem failures_isolated (k : Kind) [Entity (Val k)] (weather : Weather (Val k))
    (g : Grid Kind Val) {store : RowStore (Val k)} (built : store.Built) (span : Span)
    (name : String) (splits : Nat) (takes : g.Takes name k) :
    ∃ h l g₁, openLoad k g store span name splits = (.ok (h, l), g₁) ∧
      (∀ steps, l.Fair steps → (l.run weather steps).isOver = true) ∧
      (∃ steps, l.Fair steps ∧
        let ended := closeLoad g₁ span h (l.run weather steps)
        load k weather g store span name splits = (.ok ended.1, ended.2.1, ended.2.2)) ∧
      ∀ steps, (l.run weather steps).isOver = true →
        Isolated weather g store span name splits (l.puts weather steps)
          (closeLoad g₁ span h (l.run weather steps)) := by
  obtain ⟨h, map, g₁, hopen, hfind, hmap, retains, hget⟩ := openLoad_eq k store span splits takes
  refine ⟨h, _, g₁, hopen, fun steps fair => LoadJob.isOver_of_fair _ _ _ _ _ fair,
    ⟨_, LoadJob.fair_stepsOneByOne _, ?_⟩, fun steps finished => ?_⟩
  · simp only [load, hopen, LoadJob.oneByOne_eq_run (LoadJob.follows_start ..)]
  · obtain ⟨houtcomes, once, hmap', hrows⟩ :=
      LoadJob.foretold_of_isOver built.keyed weather map name (span.split splits) steps finished
    refine isolated_of_parts built.keyed houtcomes once (fun key => ?_) hrows
    rw [closeLoad, Grid.valueAt?_updateMap hfind hmap, hmap',
      get?_putAll_perm retains once (nodup_accepted_split built.keyed weather span splits), hget]

namespace Storm

def item (token : Int64) : Item :=
  ⟨[], some ⟨token⟩, "row"⟩

def store : RowStore Item :=
  ((RowStore.empty : RowStore Item).seed [item 1, item 5, item 6, item 9]).2

def span : Span :=
  ⟨0, 12, by decide⟩

def grid : Grid Unit fun _ => Item :=
  .create .standard

def weather : Weather Item
  | .feed part _ count => if part.start = 4 ∧ count = 1 then .crash "bug" else .serve
  | .scan part => if part.start = 8 then .fail (.ofText "unreadable") else .serve
  | _ => .serve

def steps : List LoadStep :=
  [.turn 1, .turn 2, .join 2, .turn 0, .turn 1, .turn 1, .join 1, .turn 0, .turn 0, .join 0]

theorem first_loaded :
    store.Built ∧ grid.Takes "items" () ∧
      ∃ h l g₁, openLoad () grid store span "items" 3 = (.ok (h, l), g₁) ∧
        (l.run weather steps).isOver = true ∧
        let ended := closeLoad g₁ span h (l.run weather steps)
        ended.1.loaded = 1 ∧ ended.1.failures.map (fun o => o.span.start) = [4, 8] ∧
          ended.2.1.valueAt? "items" () ⟨5⟩ = some (item 5) ∧
          ended.2.1.valueAt? "items" () ⟨6⟩ = none := by
  have built : store.Built := .seed .empty _
  have takes : grid.Takes "items" () := .inl rfl
  obtain ⟨h, l, g₁, hopen, -, -, all⟩ :=
    failures_isolated () weather grid built span "items" 3 takes
  have finished : (l.run weather steps).isOver = true := by
    cases hopen
    decide
  have isolated := all steps finished
  refine ⟨built, takes, h, l, g₁, hopen, finished, isolated.loaded, ?_, ?_, ?_⟩
  · have := congrArg (List.map Span.start) isolated.failures
    rw [List.map_map] at this
    exact this
  · exact isolated.shown ⟨4, 8, by decide⟩ (by decide) ⟨5⟩ rfl
  · exact isolated.shown ⟨4, 8, by decide⟩ (by decide) ⟨6⟩ rfl

end Storm

end Warmup

end CacheAside
