import CacheAside.Meter
import Mathlib.Algebra.GroupWithZero.Nat
import Mathlib.Data.List.Induction
/-!
Every occurrence is counted once. What there is to count is read off the steps alone, which are
listed latest first: an increment and a record are an occurrence each, and a timer is one when it is
first stopped, dropped or replaced. A registry and its clones are a family, and the meter of
a family shows how often each signal has occurred in it and the sum of the durations.
-/

set_option autoImplicit false

namespace CacheAside

/-- An occurrence of a signal in a family of registries, with its duration, and the moment at which
its timer was started; neither for an increment, and no timer for a record. -/
structure Occurrence where
  family : Nat
  signal : Signal
  elapsed : Option Nanos
  started : Option Nat
  deriving DecidableEq, Repr

namespace Occurrence

def nanos (o : Occurrence) : Nat :=
  o.elapsed.elim 0 (min · (2 ^ 64 - 1))

def mark (o : Occurrence) (m : Meter) : Meter :=
  match o.elapsed with
  | none => m.increment o.signal
  | some d => m.record o.signal d

theorem count_mark (o : Occurrence) (m : Meter) (s : Signal) :
    (o.mark m).count s = if o.signal = s then m.count s + 1 else m.count s := by
  cases h : o.elapsed <;> simp [mark, h, eq_comm]

theorem total_mark (o : Occurrence) (m : Meter) (s : Signal) :
    (o.mark m).total s = if o.signal = s then m.total s + .ofNat o.nanos else m.total s := by
  cases h : o.elapsed with
  | none => simp [mark, nanos, h, Meter.increment]
  | some d => simp [mark, nanos, h, Meter.capped, eq_comm]

end Occurrence

structure RunningTimer where
  started : Nat
  family : Nat
  signal : Signal
  deriving DecidableEq, Repr

namespace RunningTimer

def occurrence (t : RunningTimer) (elapsed : Nanos) : Occurrence :=
  ⟨t.family, t.signal, some elapsed, some t.started⟩

def kept (t : RunningTimer) : Timer :=
  ⟨t.family, t.signal, false⟩

end RunningTimer

namespace Metering

def registries : List MeterStep → Nat
  | [] => 1
  | .clone _ :: past | .fresh :: past => registries past + 1
  | _ :: past => registries past

def families : List MeterStep → Nat
  | [] => 1
  | .fresh :: past => families past + 1
  | _ :: past => families past

/-- The family of a registry: a clone is of the family that it is cloned from, a fresh registry
begins one. -/
def family : List MeterStep → Nat → Nat
  | [], _ => 0
  | .clone q :: past, r => if r = registries past then family past q else family past r
  | .fresh :: past, r => if r = registries past then families past else family past r
  | _ :: past, r => family past r

def begun (past : List MeterStep) (r : Nat) (s : Signal) : RunningTimer :=
  ⟨past.length, family past r, s⟩

/-- The timer of a name, if one has been started and has neither been stopped nor dropped. -/
def running : List MeterStep → String → Option RunningTimer
  | [], _ => none
  | .start r n s _ :: past, name =>
    if n = name then some (begun past r s) else running past name
  | .stop n _ _ :: past, name | .finish n _ :: past, name =>
    if n = name then none else running past name
  | _ :: past, name => running past name

def ended : MeterStep → Option (String × Nanos)
  | .start _ name _ d | .stop name d _ | .finish name d => some (name, d)
  | _ => none

/-- How long a timer of a name has run when it is ended for the first time in a list of steps. -/
def firstEnd (name : String) (later : List MeterStep) : Option Nanos :=
  ((later.reverse.filterMap ended).find? (·.1 = name)).map Prod.snd

/-- What a step makes occur after the steps `past`. -/
def occurrence? (past : List MeterStep) : MeterStep → Option Occurrence
  | .increment r s => some ⟨family past r, s, none, none⟩
  | .record r s d => some ⟨family past r, s, some d, none⟩
  | .start _ name _ d | .stop name d _ | .finish name d =>
    (running past name).map (·.occurrence d)
  | .clone _ | .fresh | .snapshot _ => none

def occurrences : List MeterStep → List Occurrence
  | [] => []
  | step :: past => (occurrence? past step).toList ++ occurrences past

variable {past later earlier : List MeterStep} {step : MeterStep} {name : String} {r : Nat}

/-! ## Families -/

theorem family_lt (past : List MeterStep) (r : Nat) : family past r < families past := by
  induction past generalizing r with
  | nil => exact Nat.zero_lt_one
  | cons step past ih =>
    cases step with
    | clone q =>
      simp only [family, families]
      split
      · exact ih q
      · exact ih r
    | fresh =>
      simp only [family, families]
      split
      · exact Nat.lt_succ_self _
      · exact Nat.lt_succ_of_lt (ih r)
    | _ => exact ih r

theorem family_cons (step : MeterStep) (h : r < registries past) :
    family (step :: past) r = family past r := by
  cases step with
  | clone | fresh => exact if_neg (Nat.ne_of_lt h)
  | _ => rfl

/-! ## Timers -/

theorem firstEnd_cons (name : String) (step : MeterStep) (later : List MeterStep) :
    firstEnd name (step :: later) = (firstEnd name later).or (firstEnd name [step]) := by
  simp [firstEnd, List.filterMap_append, List.find?_append, Option.map_or]

theorem running_cons_of_none (h : firstEnd name [step] = none) :
    running (step :: past) name = running past name := by
  cases step <;> simp_all [running, firstEnd, ended]

theorem running_cons_of_some (past : List MeterStep) {d : Nanos}
    (h : firstEnd name [step] = some d) :
    running (step :: past) name = none ∨
      ∃ r s d, step = .start r name s d ∧
        running (step :: past) name = some (begun past r s) := by
  cases step <;> simp_all [running, firstEnd, ended]

/-- A timer runs from the step that starts it until a step ends it. -/
theorem running_eq_some_iff {t : RunningTimer} :
    running past name = some t ↔
      ∃ later r s d earlier, past = later ++ .start r name s d :: earlier ∧
        t = begun earlier r s ∧ firstEnd name later = none := by
  constructor
  · intro h
    induction past with
    | nil => cases h
    | cons step past ih =>
      cases hend : firstEnd name [step] with
      | none =>
        rw [running_cons_of_none hend] at h
        obtain ⟨later, r, s, d, earlier, rfl, ht, hlater⟩ := ih h
        refine ⟨step :: later, r, s, d, earlier, rfl, ht, ?_⟩
        rw [firstEnd_cons, hlater, hend]
        rfl
      | some =>
        obtain hnone | ⟨r, s, d, rfl, hsome⟩ := running_cons_of_some past hend
        · rw [hnone] at h
          cases h
        · rw [hsome] at h
          exact ⟨[], r, s, d, past, rfl, (Option.some.inj h).symm, rfl⟩
  · rintro ⟨later, r, s, d, earlier, rfl, rfl, hlater⟩
    induction later with
    | nil => simp [running]
    | cons step later ih =>
      rw [firstEnd_cons, Option.or_eq_none_iff] at hlater
      rw [List.cons_append, running_cons_of_none hlater.2]
      exact ih hlater.1

theorem families_le_append (later past : List MeterStep) :
    families past ≤ families (later ++ past) := by
  induction later with
  | nil => exact Nat.le_refl _
  | cons step later ih => cases step <;> simp only [List.cons_append, families] <;> omega

theorem family_lt_of_running {t : RunningTimer} (h : running past name = some t) :
    t.family < families past := by
  obtain ⟨later, r, s, d, earlier, rfl, rfl, -⟩ := running_eq_some_iff.1 h
  have := families_le_append later (.start r name s d :: earlier)
  exact Nat.lt_of_lt_of_le (family_lt earlier r) this

theorem started_lt_of_running {t : RunningTimer} (h : running past name = some t) :
    t.started < past.length := by
  obtain ⟨later, r, s, d, earlier, rfl, rfl, -⟩ := running_eq_some_iff.1 h
  simp only [begun, List.length_append, List.length_cons]
  omega

theorem occurrence?_of_ended {n : String} {d : Nanos} (h : ended step = some (n, d)) :
    occurrence? past step = (running past n).map (·.occurrence d) := by
  cases step <;> cases h <;> rfl

theorem started_eq_none {o : Occurrence} (h : occurrence? past step = some o)
    (hend : ended step = none) : o.started = none := by
  cases step <;> cases hend <;> cases h <;> rfl

theorem started_lt {o : Occurrence} (h : occurrence? past step = some o) {m : Nat}
    (hm : o.started = some m) : m < past.length := by
  cases hend : ended step with
  | none =>
    rw [started_eq_none h hend] at hm
    cases hm
  | some e =>
    rw [occurrence?_of_ended hend, Option.map_eq_some_iff] at h
    obtain ⟨t, ht, rfl⟩ := h
    cases hm
    exact started_lt_of_running ht

theorem started_lt_of_mem {o : Occurrence} (h : o ∈ occurrences past) {m : Nat}
    (hm : o.started = some m) : m < past.length := by
  induction past with
  | nil => cases h
  | cons step past ih =>
    rw [List.length_cons]
    rcases List.mem_append.1 h with h | h
    · exact Nat.lt_succ_of_lt (started_lt (Option.mem_toList.1 h) hm)
    · exact Nat.lt_succ_of_lt (ih h)

theorem exists_start_of_mem {o : Occurrence} (h : o ∈ occurrences past) {m : Nat}
    (hm : o.started = some m) :
    ∃ later r name s d earlier, past = later ++ .start r name s d :: earlier ∧
      earlier.length = m := by
  induction past with
  | nil => cases h
  | cons step past ih =>
    have hrest : ∃ later r name s d earlier, past = later ++ .start r name s d :: earlier ∧
        earlier.length = m := by
      rcases List.mem_append.1 h with h | h
      · rw [Option.mem_toList] at h
        cases hend : ended step with
        | none =>
          rw [started_eq_none h hend] at hm
          cases hm
        | some e =>
          rw [occurrence?_of_ended hend, Option.map_eq_some_iff] at h
          obtain ⟨t, ht, rfl⟩ := h
          obtain ⟨later, r, s, d, earlier, rfl, rfl, -⟩ := running_eq_some_iff.1 ht
          exact ⟨later, r, e.1, s, d, earlier, rfl, Option.some.inj hm⟩
      · exact ih h
    obtain ⟨later, r, name, s, d, earlier, rfl, hlen⟩ := hrest
    exact ⟨step :: later, r, name, s, d, earlier, rfl, hlen⟩

section OneTimer

variable {s : Signal} {d : Nanos}

/-- A timer is told from all others by the moment at which it was started. -/
theorem started_iff {n : String} {t : RunningTimer}
    (h : running (later ++ .start r name s d :: earlier) n = some t) :
    t.started = earlier.length ↔ n = name ∧ firstEnd name later = none ∧ t = begun earlier r s := by
  obtain ⟨later', r', s', d', earlier', heq, rfl, hend⟩ := running_eq_some_iff.1 h
  refine ⟨fun hlen => ?_, fun h => congrArg RunningTimer.started h.2.2⟩
  obtain ⟨rfl, htail⟩ := List.append_inj' heq (congrArg (· + 1) (Eq.symm hlen))
  cases htail
  exact ⟨rfl, hend, rfl⟩

theorem filter_occurrence? (step : MeterStep) :
    (occurrence? (later ++ .start r name s d :: earlier) step).toList.filter
        (·.started = some earlier.length) =
      if firstEnd name later = none then
        ((firstEnd name [step]).map (begun earlier r s).occurrence).toList
      else [] := by
  cases hend : ended step with
  | none =>
    have hnone : firstEnd name [step] = none := by simp [firstEnd, hend]
    rw [hnone, List.filter_eq_nil_iff.2]
    · simp
    · intro o ho
      rw [started_eq_none (Option.mem_toList.1 ho) hend]
      simp
  | some e =>
    obtain ⟨n, elapsed⟩ := e
    have hfirst : firstEnd name [step] = if n = name then some elapsed else none := by
      by_cases h : n = name <;> simp [firstEnd, hend, h]
    rw [occurrence?_of_ended hend, hfirst]
    by_cases h : n = name ∧ firstEnd name later = none
    · obtain ⟨rfl, hlater⟩ := h
      have hrun := running_eq_some_iff.2 ⟨later, r, s, d, earlier, rfl, rfl, hlater⟩
      simp [hrun, hlater, RunningTimer.occurrence, begun]
    · rw [List.filter_eq_nil_iff.2]
      · by_cases hn : n = name <;> simp_all
      · intro o ho
        obtain ⟨t, ht, rfl⟩ := Option.map_eq_some_iff.1 (Option.mem_toList.1 ho)
        have := (started_iff ht).not.2 fun ⟨hn, hlater, _⟩ => h ⟨hn, hlater⟩
        simpa [RunningTimer.occurrence] using this

/-- A timer occurs once it has ended, and then once. -/
theorem occurrences_of_timer (later : List MeterStep) :
    (occurrences (later ++ .start r name s d :: earlier)).filter
        (·.started = some earlier.length) =
      ((firstEnd name later).map (begun earlier r s).occurrence).toList := by
  induction later with
  | nil =>
    refine List.filter_eq_nil_iff.2 fun o ho => ?_
    rcases List.mem_append.1 ho with ho | ho
    · simpa using fun h => Nat.lt_irrefl _ (started_lt (Option.mem_toList.1 ho) h)
    · simpa using fun h => Nat.lt_irrefl _ (started_lt_of_mem ho h)
  | cons step later ih =>
    rw [List.cons_append, occurrences, List.filter_append, ih, filter_occurrence?,
      firstEnd_cons name step later]
    cases firstEnd name later <;> simp

end OneTimer

/-! ## The book -/

def occurred (past : List MeterStep) (family : Nat) (s : Signal) : List Occurrence :=
  (occurrences past).filter fun o => o.family = family ∧ o.signal = s

def count (past : List MeterStep) (family : Nat) (s : Signal) : Nat :=
  (occurred past family s).length

def total (past : List MeterStep) (family : Nat) (s : Signal) : Nat :=
  ((occurred past family s).map Occurrence.nanos).sum

theorem occurred_cons_of_none (h : occurrence? past step = none) :
    occurred (step :: past) = occurred past := by
  funext f s
  simp [occurred, occurrences, h]

theorem occurred_cons_of_some {o : Occurrence} (h : occurrence? past step = some o) (f : Nat)
    (s : Signal) :
    occurred (step :: past) f s =
      if o.family = f ∧ o.signal = s then o :: occurred past f s else occurred past f s := by
  simp only [occurred, occurrences, h, Option.toList_some, List.singleton_append,
    List.filter_cons, decide_eq_true_eq]

end Metering

namespace MeterBook

variable {b : MeterBook}

theorem run_concat (b : MeterBook) (steps : List MeterStep) (step : MeterStep) :
    b.run (steps ++ [step]) = (b.run steps).step step := by
  simp only [run, List.foldl_append, List.foldl_cons, List.foldl_nil]

def meterAt (b : MeterBook) (i : Nat) : Meter :=
  b.meters.getD i .zero

theorem meterAt_modifyMeter {i : Nat} (h : i < b.meters.length) (f : Meter → Meter) (j : Nat) :
    (b.modifyMeter i f).meterAt j = if i = j then f (b.meterAt j) else b.meterAt j := by
  by_cases hj : i = j
  · subst hj
    simp [meterAt, modifyMeter, List.getD_eq_getElem?_getD, h]
  · simp [meterAt, modifyMeter, List.getD_eq_getElem?_getD, hj]

@[simp] theorem registries_finish (b : MeterBook) (name : String) (d : Nanos) :
    (b.finish name d).registries = b.registries := by
  simp only [finish, recordOnce]
  split
  · rfl
  · split <;> rfl

@[simp] theorem length_meters_finish (b : MeterBook) (name : String) (d : Nanos) :
    (b.finish name d).meters.length = b.meters.length := by
  simp only [finish, recordOnce]
  split
  · rfl
  · split
    · rfl
    · exact List.length_modify ..

@[simp] theorem get?_timers_finish (b : MeterBook) (name n : String) (d : Nanos) :
    (b.finish name d).timers.get? n = if name = n then none else b.timers.get? n := by
  by_cases h : name = n
  · simp [finish, h]
  · simp only [finish, recordOnce, Table.get?_erase, h, if_false]
    split
    · rfl
    · split <;> simp [h]

theorem stop_eq_finish (b : MeterBook) (name : String) (elapsed later : Nanos) :
    (b.recordOnce name elapsed).finish name later = b.finish name elapsed := by
  cases h : b.timers.get? name with
  | none => simp [finish, recordOnce, h]
  | some t => cases hs : t.stopped <;> simp [finish, recordOnce, h, hs]

end MeterBook

namespace Metering

/-- A book has the registries, the meters and the timers that the steps make. -/
structure Reflects (b : MeterBook) (past : List MeterStep) : Prop where
  registries : b.registries.length = Metering.registries past
  families : b.meters.length = Metering.families past
  meterOf : ∀ r, b.meterOf r = family past r
  timers : ∀ name, b.timers.get? name = (running past name).map (·.kept)

variable {b : MeterBook} {past : List MeterStep}

theorem reflects_initial : Reflects .initial [] := by
  refine ⟨rfl, rfl, fun r => ?_, fun name => rfl⟩
  cases r <;> rfl

theorem Reflects.meterAt_finish (h : Reflects b past) (name : String) (d : Nanos) (i : Nat) :
    (b.finish name d).meterAt i =
      match running past name with
      | none => b.meterAt i
      | some t => if t.family = i then (t.occurrence d).mark (b.meterAt i) else b.meterAt i := by
  have ht := h.timers name
  cases hrun : running past name with
  | none => simp [MeterBook.finish, MeterBook.recordOnce, ht, hrun, MeterBook.meterAt]
  | some t =>
    have hlt := family_lt_of_running hrun
    rw [← h.families] at hlt
    have hmeters : (b.finish name d).meters =
        (b.modifyMeter t.family (·.record t.signal d)).meters := by
      simp [MeterBook.finish, MeterBook.recordOnce, ht, hrun, RunningTimer.kept]
    calc (b.finish name d).meterAt i
        = (b.modifyMeter t.family (·.record t.signal d)).meterAt i := by
          rw [MeterBook.meterAt, hmeters, MeterBook.meterAt]
      _ = _ := MeterBook.meterAt_modifyMeter hlt _ i

theorem getD_append_singleton {α : Type} (xs : List α) (x d : α) (i : Nat) :
    (xs ++ [x]).getD i d = if i = xs.length then x else xs.getD i d := by
  rw [List.getD_eq_getElem?_getD, List.getD_eq_getElem?_getD]
  rcases Nat.lt_trichotomy i xs.length with h | rfl | h
  · rw [List.getElem?_append_left h, if_neg (Nat.ne_of_lt h)]
  · simp
  · have hlength : (xs ++ [x]).length ≤ i := by simpa using Nat.succ_le_of_lt h
    rw [List.getElem?_eq_none hlength, List.getElem?_eq_none (Nat.le_of_lt h),
      if_neg (Nat.ne_of_gt h)]

theorem Reflects.meterOf_finish (h : Reflects b past) (name : String) (d : Nanos) (r : Nat) :
    (b.finish name d).meterOf r = family past r := by
  rw [MeterBook.meterOf, MeterBook.registries_finish]
  exact h.meterOf r

theorem Reflects.step (h : Reflects b past) (step : MeterStep) :
    Reflects (b.step step) (step :: past) := by
  have hregistries (name : String) (d : Nanos) :
      (b.finish name d).registries.length = Metering.registries past := by
    rw [MeterBook.registries_finish, h.registries]
  have hfamilies (name : String) (d : Nanos) :
      (b.finish name d).meters.length = Metering.families past := by
    rw [MeterBook.length_meters_finish, h.families]
  cases step with
  | increment | record =>
    exact ⟨h.registries, (List.length_modify ..).trans h.families, h.meterOf, h.timers⟩
  | start r name s d =>
    refine ⟨hregistries name d, hfamilies name d, h.meterOf_finish name d, fun n => ?_⟩
    by_cases hn : name = n
    · simp [MeterBook.step, running, hn, h.meterOf_finish, begun, RunningTimer.kept]
    · simp [MeterBook.step, running, hn, h.timers]
  | stop name d later =>
    rw [MeterBook.step, MeterBook.stop_eq_finish]
    refine ⟨hregistries name d, hfamilies name d, h.meterOf_finish name d, fun n => ?_⟩
    by_cases hn : name = n <;> simp [running, hn, h.timers]
  | finish name d =>
    refine ⟨hregistries name d, hfamilies name d, h.meterOf_finish name d, fun n => ?_⟩
    by_cases hn : name = n <;> simp [MeterBook.step, running, hn, h.timers]
  | clone r =>
    refine ⟨?_, h.families, fun q => ?_, h.timers⟩
    · simp [MeterBook.step, Metering.registries, h.registries]
    · simp only [MeterBook.step, MeterBook.meterOf, getD_append_singleton, family, h.registries,
        ← h.meterOf]
  | fresh =>
    refine ⟨?_, ?_, fun q => ?_, h.timers⟩
    · simp [MeterBook.step, Metering.registries, h.registries]
    · simp [MeterBook.step, Metering.families, h.families]
    · simp only [MeterBook.step, MeterBook.meterOf, getD_append_singleton, family, h.registries,
        h.families, ← h.meterOf]
  | snapshot r => exact ⟨h.registries, h.families, h.meterOf, h.timers⟩

theorem Reflects.meterAt_step (h : Reflects b past) (step : MeterStep) (i : Nat) :
    (b.step step).meterAt i =
      match occurrence? past step with
      | none => b.meterAt i
      | some o => if o.family = i then o.mark (b.meterAt i) else b.meterAt i := by
  have hlt (r : Nat) : family past r < b.meters.length := by
    rw [h.families]
    exact family_lt past r
  have hfinish (name : String) (d : Nanos) : (b.finish name d).meterAt i =
      match (running past name).map (·.occurrence d) with
      | none => b.meterAt i
      | some o => if o.family = i then o.mark (b.meterAt i) else b.meterAt i := by
    rw [h.meterAt_finish]
    cases running past name <;> rfl
  cases step with
  | increment r s =>
    rw [MeterBook.step, h.meterOf]
    exact MeterBook.meterAt_modifyMeter (hlt r) _ i
  | record r s d =>
    rw [MeterBook.step, h.meterOf]
    exact MeterBook.meterAt_modifyMeter (hlt r) _ i
  | start r name s d => exact hfinish name d
  | stop name d later =>
    rw [MeterBook.step, MeterBook.stop_eq_finish]
    exact hfinish name d
  | finish name d => exact hfinish name d
  | clone r => rfl
  | fresh =>
    simp only [MeterBook.step, MeterBook.meterAt, getD_append_singleton, occurrence?]
    split
    · next hi => simp [hi]
    · rfl
  | snapshot r => rfl

theorem Reflects.meter (h : Reflects b past) (r : Nat) : b.meter r = b.meterAt (family past r) := by
  rw [← h.meterOf]
  rfl

theorem reflects_run (steps : List MeterStep) :
    Reflects (MeterBook.initial.run steps) steps.reverse := by
  induction steps using List.reverseRecOn with
  | nil => exact reflects_initial
  | append_singleton steps step ih =>
    rw [MeterBook.run_concat, List.reverse_concat]
    exact ih.step step

theorem figures_run (steps : List MeterStep) (i : Nat) (s : Signal) :
    ((MeterBook.initial.run steps).meterAt i).count s = .ofNat (count steps.reverse i s) ∧
      ((MeterBook.initial.run steps).meterAt i).total s = .ofNat (total steps.reverse i s) := by
  induction steps using List.reverseRecOn with
  | nil => cases i <;> exact ⟨rfl, rfl⟩
  | append_singleton steps step ih =>
    rw [MeterBook.run_concat, List.reverse_concat, (reflects_run steps).meterAt_step]
    obtain ⟨hc, ht⟩ := ih
    cases ho : occurrence? steps.reverse step with
    | none =>
      rw [count, total, occurred_cons_of_none ho]
      exact ⟨hc, ht⟩
    | some o =>
      simp only [count, total, occurred_cons_of_some ho]
      by_cases h : o.family = i ∧ o.signal = s
      · obtain ⟨rfl, rfl⟩ := h
        simp [Occurrence.count_mark, Occurrence.total_mark, hc, ht, count, total, UInt64.add_comm]
      · rw [if_neg h]
        split
        · next hf =>
          have hs : o.signal ≠ s := fun hs => h ⟨hf, hs⟩
          simp [Occurrence.count_mark, Occurrence.total_mark, hs, hc, ht, count, total]
        · exact ⟨hc, ht⟩

/-- What the registries show after the steps `past`: the occurrences of their families, so that
clones agree, and each timer as one occurrence from when it is first ended. The next step changes
nothing but the signal that it makes occur. -/
structure Accounted (b : MeterBook) (past : List MeterStep) : Prop where
  counts : ∀ r s, ((b.meter r).count s).toNat = count past (family past r) s % 2 ^ 64
  totals : ∀ r s, ((b.meter r).total s).toNat = total past (family past r) s % 2 ^ 64
  snapshots : ∀ r, (b.meter r).snapshot = Signal.all.map fun s =>
    (s, ⟨.ofNat (count past (family past r) s), total past (family past r) s % 2 ^ 64⟩)
  clones : ∀ q r, family past q = family past r → b.meter q = b.meter r
  timers : ∀ later r name s d earlier, past = later ++ .start r name s d :: earlier →
    (occurrences past).filter (·.started = some earlier.length) =
      ((firstEnd name later).map (begun earlier r s).occurrence).toList
  untimed : ∀ o ∈ occurrences past, ∀ n, o.started = some n →
    ∃ later r name s d earlier, past = later ++ .start r name s d :: earlier ∧ earlier.length = n
  others : ∀ step r s, r < registries past →
    (∀ o, occurrence? past step = some o → ¬(o.family = family past r ∧ o.signal = s)) →
    ((b.step step).meter r).stat s = (b.meter r).stat s

/-- Nothing is lost and nothing is counted twice, whatever is done in whatever order. -/
theorem accounted (steps : List MeterStep) :
    Accounted (MeterBook.initial.run steps) steps.reverse := by
  have hr := reflects_run steps
  have hcount (r : Nat) (s : Signal) := (figures_run steps (family steps.reverse r) s).1
  have htotal (r : Nat) (s : Signal) := (figures_run steps (family steps.reverse r) s).2
  constructor
  case counts =>
    intro r s
    rw [hr.meter, hcount, UInt64.toNat_ofNat']
  case totals =>
    intro r s
    rw [hr.meter, htotal, UInt64.toNat_ofNat']
  case snapshots =>
    intro r
    refine List.map_congr_left fun s _ => ?_
    rw [Meter.stat, hr.meter, hcount, htotal, UInt64.toNat_ofNat']
  case clones =>
    intro q r hqr
    rw [hr.meter, hr.meter, hqr]
  case timers =>
    rintro later r name s d earlier hpast
    rw [hpast]
    exact occurrences_of_timer later
  case untimed => exact fun o ho n hn => exists_start_of_mem ho hn
  case others =>
    intro step r s hlt hno
    rw [(hr.step step).meter, hr.meter, family_cons step hlt, hr.meterAt_step]
    cases ho : occurrence? steps.reverse step with
    | none => rfl
    | some o =>
      by_cases hf : o.family = family steps.reverse r
      · have hs : o.signal ≠ s := fun hs => hno o ho ⟨hf, hs⟩
        simp [Meter.stat, hf, Occurrence.count_mark, Occurrence.total_mark, hs]
      · simp [hf]

example : let b := MeterBook.initial.run [.clone 0, .start 1 "t" .find 0, .stop "t" 5 9,
      .start 1 "t" .find 0, .start 0 "t" .save 3, .fresh]
    ((b.meter 0).stat .find, (b.meter 0).stat .save, (b.meter 2).stat .find) =
      (⟨2, 8⟩, ⟨0, 0⟩, ⟨0, 0⟩) := by
  decide

end Metering

end CacheAside
