import CacheAside.Proofs.Grid.Entries
import CacheAside.Proofs.Warmup.Turns
/-!
Rows on their way from the store into the map. What has been put and what is left to put are
counted together: a turn moves a row from the one to the other, and nothing else changes either.
So whatever the order of the turns, when nothing is left each row was put exactly once.
-/

set_option autoImplicit false

namespace CacheAside

variable {E Out : Type}

def serving : Warmup.Weather E :=
  fun _ => .serve

def Progress.left (store : RowStore E) : Progress E Out → List E
  | .next (.scan span) => store.rowsIn span.start span.stop
  | .next (.feed _ rest _) => rest
  | _ => []

/-- The rows that a task of a load puts in all, unless it failed. -/
def Progress.total? (store : RowStore E) : Progress E Out → Option Nat
  | .next (.scan span) => some (store.rowsIn span.start span.stop).length
  | .next (.feed _ rest count) => some (count + rest.length)
  | .done (.ok (.loaded (.value count))) => some count
  | _ => none

variable [Entity E]

def Work.entryOf? (row : E) : Option (Key × E) :=
  (stampedRow row).toOption

/-- The entry that a call puts into the map on behalf of a load. -/
def Work.put? (c : Conduct E) : Work E Out → Option (Key × E)
  | .feed _ (row :: _) _ =>
    match failure .grid c with
    | some _ => none
    | none => entryOf? row
  | _ => none

namespace Work

variable {w : Work E Out} (number : Nat) (listening : Bool) (map : EntryMap E) (store : RowStore E)

theorem map_advance_load (hw : w.IsLoad) (c : Conduct E) :
    (w.advance number listening map store c).map = map.putAll (w.put? c).toList := by
  cases w with
  | scan span => cases c <;> rfl
  | feed span rest count =>
    cases rest with
    | nil => cases c <;> rfl
    | cons row rest =>
      cases hrow : stampedRow row with
      | error f => cases c <;> simp [advance, put?, failure, entryOf?, hrow, Except.toOption,
          EntryMap.putAll]
      | ok p => cases c <;> simp [advance, put?, failure, entryOf?, hrow, Except.toOption,
          EntryMap.putAll]
  | _ => exact hw.elim

/-- A served call of a load puts the first of the rows that are left, if there is one. -/
theorem advance_served (hw : w.IsLoad) {at₀ : RowStore E} (hrows : store.rows = at₀.rows)
    (sound : ∀ row ∈ (Progress.next w).left at₀, (entryOf? row).isSome = true) :
    let m := w.advance number listening map store .serve
    m.progress.total? at₀ = (Progress.next w).total? at₀ ∧
      ((Progress.next w).left at₀).filterMap entryOf? =
        (w.put? .serve).toList ++ (m.progress.left at₀).filterMap entryOf? ∧
      ∀ row ∈ m.progress.left at₀, row ∈ (Progress.next w).left at₀ := by
  cases w with
  | scan span =>
    have := RowStore.rowsIn_congr hrows span.start span.stop
    simp [advance, Progress.total?, Progress.left, put?, this]
  | feed span rest count =>
    cases rest with
    | nil => simp [advance, Progress.total?, Progress.left, put?]
    | cons row rest =>
      cases hrow : stampedRow row with
      | error f =>
        have := sound row (List.mem_cons_self ..)
        simp [entryOf?, hrow, Except.toOption] at this
      | ok p =>
        have hentry : entryOf? row = some p := by simp [entryOf?, hrow, Except.toOption]
        simp only [advance, hrow, Progress.total?, Progress.left, put?, failure, hentry,
          List.length_cons, Option.some.injEq, List.filterMap_cons, Option.toList_some,
          List.singleton_append, true_and]
        exact ⟨by omega, fun _ hr => List.mem_cons_of_mem row hr⟩
  | _ => exact hw.elim

end Work

namespace LoadJob

open Warmup Tiers

def put? (weather : Weather E) (l : LoadJob E) : LoadStep → Option (Key × E)
  | .turn i => (l.tiers.tasks[i]? >>= Task.work?) >>= fun w => w.put? (weather w)
  | .join _ => none

theorem put?_turn_of_not_due (weather : Weather E) {l : LoadJob E} {i : Nat}
    (h : ∀ w, ¬ l.tiers.Due i w) : l.put? weather (.turn i) = none := by
  cases hw : l.tiers.tasks[i]? >>= Task.work? with
  | none => simp [LoadJob.put?, hw]
  | some w => exact absurd (work?_eq_some_iff.1 hw) (h w)

theorem put?_turn_of_due (weather : Weather E) {l : LoadJob E} {i : Nat} {client : Client Unit}
    {w : Work E Unit} (h : l.tiers.tasks[i]? = some ⟨client, .next w⟩) :
    l.put? weather (.turn i) = w.put? (weather w) := by
  simp [LoadJob.put?, h, Task.work?]

def puts (weather : Weather E) (l : LoadJob E) : List LoadStep → List (Key × E)
  | [] => []
  | st :: rest => (l.put? weather st).toList ++ (l.step weather st).puts weather rest

def entriesLeft (store : RowStore E) (t : Task E Unit Unit) : List (Key × E) :=
  (t.progress.left store).filterMap Work.entryOf?

def left (store : RowStore E) (l : LoadJob E) : List (Key × E) :=
  l.tiers.tasks.flatMap (entriesLeft store)

/-- The map has what was put, and what was put and what is left are the rows of the load. -/
structure Conserves (begun l : LoadJob E) (puts : List (Key × E)) : Prop where
  map : l.tiers.map = begun.tiers.map.putAll puts
  rows : (puts ++ l.left begun.tiers.store).Perm (begun.left begun.tiers.store)
  totals : l.tiers.tasks.map (fun t => t.progress.total? begun.tiers.store) =
    begun.tiers.tasks.map (fun t => t.progress.total? begun.tiers.store)
  sound : ∀ t ∈ l.tiers.tasks, ∀ row ∈ t.progress.left begun.tiers.store,
    (Work.entryOf? row).isSome = true

variable {begun l : LoadJob E} {puts : List (Key × E)}

theorem Conserves.turn (h : begun.Conserves l puts) (hf : begun.Follows l) (i : Nat) :
    begun.Conserves (l.turn serving i) (puts ++ (l.put? serving (.turn i)).toList) := by
  rcases turn_cases hf serving i with ⟨hno, hl⟩ | ⟨client, w, hi, hload, htasks, hmap, -, -⟩
  · rw [hl, put?_turn_of_not_due serving hno]
    simpa using h
  · have hmem := List.mem_of_getElem? hi
    obtain ⟨htotal, hleft, hsub⟩ := Work.advance_served i client.listener.isSome l.tiers.map
      l.tiers.store hload hf.rows (h.sound _ hmem)
    rw [put?_turn_of_due serving hi]
    refine ⟨?_, ?_, ?_, fun t ht => ?_⟩
    · rw [hmap, Work.map_advance_load _ _ _ _ hload, h.map, EntryMap.putAll_append]
    · rw [LoadJob.left, htasks, List.append_assoc]
      exact ((flatMap_set_perm hi hleft).append_left puts).trans h.rows
    · rw [htasks, map_set_of_eq hi htotal, h.totals]
    · rw [htasks] at ht
      rcases List.mem_or_eq_of_mem_set ht with ht | rfl
      · exact h.sound t ht
      · exact fun row hrow => h.sound _ hmem row (hsub row hrow)

end LoadJob

end CacheAside
