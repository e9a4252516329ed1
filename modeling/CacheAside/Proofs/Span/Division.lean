import CacheAside.Proofs.Span.Tiling
import Mathlib.Algebra.GroupWithZero.Nat
import Mathlib.Data.List.Forall2

set_option autoImplicit false

namespace CacheAside.Span

/-- How many tokens part `i` has when `n` tokens go into `m` parts, the longer ones first. -/
def share (n m i : Nat) : Nat :=
  n / m + if i < n % m then 1 else 0

/-- Where the parts before part `i` end, added up one by one. -/
def runningEnd (start : Int) (n m : Nat) : Nat → Int
  | 0 => start
  | i + 1 => runningEnd start n m i + share n m i

theorem cut_succ (start : Int) (base extra i : Nat) :
    cut start base extra (i + 1) =
      cut start base extra i + (base + if i < extra then 1 else 0 : Nat) := by
  simp only [cut, Nat.succ_mul]
  split <;> omega

theorem cut_eq_runningEnd (start : Int) (n m i : Nat) :
    cut start (n / m) (n % m) i = runningEnd start n m i := by
  induction i with
  | zero => simp [cut, runningEnd]
  | succ i ih => rw [cut_succ, ih, runningEnd, share]

section RunningEnd

variable {start : Int} {n m : Nat}

theorem runningEnd_self (start : Int) (hm : 0 < m) : runningEnd start n m m = start + n := by
  have hmod := Nat.mod_lt n hm
  have hdiv := Nat.div_add_mod n m
  rw [← cut_eq_runningEnd, cut, Nat.min_eq_right (Nat.le_of_lt hmod), hdiv]

theorem runningEnd_mono {i j : Nat} (h : i ≤ j) :
    runningEnd start n m i ≤ runningEnd start n m j := by
  induction h with
  | refl => exact Int.le_refl _
  | step _ ih =>
    rw [runningEnd]
    omega

theorem share_pos (hm : 0 < m) (hle : m ≤ n) (i : Nat) : 0 < share n m i := by
  have := Nat.div_pos hle hm
  rw [share]
  omega

theorem runningEnd_lt_of_lt (start : Int) (hm : 0 < m) (hle : m ≤ n) {i j : Nat} (h : i < j) :
    runningEnd start n m i < runningEnd start n m j := by
  have hpos := share_pos hm hle i
  have hnext : runningEnd start n m (i + 1) ≤ runningEnd start n m j := runningEnd_mono h
  rw [runningEnd] at hnext
  omega

end RunningEnd

theorem forall₂_filterMap {α β : Type} {f : α → Option β} {R : α → β → Prop} {l : List α}
    (h : ∀ x ∈ l, ∃ y, f x = some y ∧ R x y) : List.Forall₂ R l (l.filterMap f) := by
  induction l with
  | nil => exact .nil
  | cons x rest ih =>
    obtain ⟨y, hy, hR⟩ := h x List.mem_cons_self
    rw [List.filterMap_cons, hy]
    exact .cons hR (ih fun z hz => h z (List.mem_cons_of_mem x hz))

theorem length_eq_sub (s : Span) : (s.length : Int) = s.stop.toInt - s.start.toInt := by
  have hle := Int64.le_iff_toInt_le.1 s.start_le_stop
  rw [length]
  omega

theorem length_lt (s : Span) : s.length < 2 ^ 64 := by
  have hlo := Int64.le_toInt s.start
  have hhi := Int64.toInt_lt s.stop
  have hlen := s.length_eq_sub
  omega

theorem partCount_pos {s : Span} (h : 0 < s.length) (n : Nat) : 0 < s.partCount n := by
  rw [partCount]
  omega

/-- Part `i` lies between two running ends, neither of which the narrowing changes. -/
theorem forall₂_split {s : Span} (h : 0 < s.length) (n : Nat) :
    List.Forall₂ (fun i p =>
        p.start.toInt = runningEnd s.start.toInt s.length (s.partCount n) i ∧
          p.stop.toInt = runningEnd s.start.toInt s.length (s.partCount n) (i + 1))
      (List.range (s.partCount n)) (s.split n) := by
  have hpos := partCount_pos h n
  rw [split, if_neg (by omega)]
  dsimp only
  generalize s.partCount n = m at hpos ⊢
  refine forall₂_filterMap fun i hi => ?_
  simp only [cut_eq_runningEnd]
  have hlast := runningEnd_self (n := s.length) s.start.toInt hpos
  have hlen := s.length_eq_sub
  have hlo := Int64.le_toInt s.start
  have hhi := Int64.toInt_lt s.stop
  have hfirst : s.start.toInt ≤ runningEnd s.start.toInt s.length m i :=
    runningEnd_mono (Nat.zero_le i)
  have hnext : runningEnd s.start.toInt s.length m i ≤
      runningEnd s.start.toInt s.length m (i + 1) :=
    runningEnd_mono (Nat.le_succ i)
  have hstop : runningEnd s.start.toInt s.length m (i + 1) ≤
      runningEnd s.start.toInt s.length m m :=
    runningEnd_mono (List.mem_range.1 hi)
  obtain ⟨p, hp, hstart, hend⟩ := between?_of_le hnext (by omega) (by omega)
  refine ⟨p, hp, ?_, ?_⟩
  · rw [hstart, Int64.toInt_ofInt_of_le (by omega) (by omega)]
  · rw [hend, Int64.toInt_ofInt_of_le (by omega) (by omega)]

theorem length_split {s : Span} (h : 0 < s.length) (n : Nat) :
    (s.split n).length = s.partCount n := by
  rw [← (forall₂_split h n).length_eq, List.length_range]

theorem bounds_of_getElem? {s : Span} (h : 0 < s.length) (n : Nat) {i : Nat} {p : Span}
    (hp : (s.split n)[i]? = some p) :
    p.start.toInt = runningEnd s.start.toInt s.length (s.partCount n) i ∧
      p.stop.toInt = runningEnd s.start.toInt s.length (s.partCount n) (i + 1) := by
  obtain ⟨hi, rfl⟩ := List.getElem?_eq_some_iff.1 hp
  have hrange : i < (List.range (s.partCount n)).length := by
    rwa [List.length_range, ← length_split h n]
  simpa using (forall₂_split h n).get hrange hi

theorem Tiles.countP_contains {a b : Int64} {parts : List Span} (h : Tiles a parts b) (t : Int64) :
    parts.countP (·.contains t) = if a ≤ t ∧ t < b then 1 else 0 := by
  have hcount : (parts.flatMap fun p => [t].filter fun x => p.contains x).length =
      parts.countP (·.contains t) := by
    induction parts generalizing a with
    | nil => rfl
    | cons p rest ih =>
      rw [List.flatMap_cons, List.length_append, ih h.2, List.countP_cons]
      cases hp : p.contains t <;> simp [hp, Nat.add_comm]
  have hpick := (h.filter_perm id [t]).length_eq
  simp only [id_eq] at hpick
  rw [← hcount, hpick]
  by_cases ht : a ≤ t ∧ t < b <;> simp [ht]

/-- A division of a span into at most so many parts, each starting where the one before it stops, at
a running end that narrowing leaves as it is. A token of the span lies in one part, and any other in
none. -/
structure Division (s : Span) (parts : Nat) (ps : List Span) : Prop where
  length_exact : (s.length : Int) = s.stop.toInt - s.start.toInt ∧ s.length < 2 ^ 64
  of_empty : s.length = 0 → ps = [s]
  count : 0 < s.length → ps.length = min (max parts 1) s.length
  tiles : Tiles s.start ps s.stop
  narrowed : ∀ i p, ps[i]? = some p →
    p.start.toInt = runningEnd s.start.toInt s.length ps.length i ∧
      p.stop.toInt = runningEnd s.start.toInt s.length ps.length (i + 1)
  length_part : ∀ i p, ps[i]? = some p → p.length = share s.length ps.length i
  nonempty : 0 < s.length → ∀ p ∈ ps, 0 < p.length
  tokens : ∀ t, ps.countP (·.contains t) = if s.contains t then 1 else 0
  excludesLast_part : ∀ i p, ps[i]? = some p →
    p.excludesLast = (s.excludesLast && i + 1 == ps.length)

theorem division_of_bounds {s : Span} {parts : Nat} {ps : List Span} (h : 0 < s.length)
    (hcount : ps.length = s.partCount parts) (tiles : Tiles s.start ps s.stop)
    (narrowed : ∀ i p, ps[i]? = some p →
      p.start.toInt = runningEnd s.start.toInt s.length ps.length i ∧
        p.stop.toInt = runningEnd s.start.toInt s.length ps.length (i + 1)) :
    s.Division parts ps := by
  have hpos : 0 < ps.length := hcount ▸ partCount_pos h parts
  have hle : ps.length ≤ s.length := by
    rw [hcount, partCount]
    exact Nat.min_le_right _ _
  have hlen : ∀ i p, ps[i]? = some p → p.length = share s.length ps.length i := by
    intro i p hp
    obtain ⟨hstart, hstop⟩ := narrowed i p hp
    rw [runningEnd] at hstop
    rw [length]
    omega
  refine ⟨⟨s.length_eq_sub, s.length_lt⟩, fun h0 => absurd h (by omega), fun _ => hcount, tiles,
    narrowed, hlen, fun _ p hp => ?_, fun t => ?_, fun i p hp => ?_⟩
  · obtain ⟨i, hp⟩ := List.mem_iff_getElem?.1 hp
    rw [hlen i p hp]
    exact share_pos hpos hle i
  · rw [tiles.countP_contains]
    exact if_congr (s.contains_iff t).symm rfl rfl
  · have hi : i < ps.length := (List.getElem?_eq_some_iff.1 hp).1
    have hstop := (narrowed i p hp).2
    have hend := runningEnd_self (n := s.length) s.start.toInt hpos
    have htotal := s.length_eq_sub
    have hmax : s.stop.toInt ≤ Int64.maxValue.toInt := Int64.toInt_le s.stop
    rw [Bool.eq_iff_iff]
    simp only [excludesLast, beq_iff_eq, Bool.and_eq_true, ← Int64.toInt_inj]
    rcases Nat.lt_or_ge (i + 1) ps.length with hlt | hlast
    · have hshort := runningEnd_lt_of_lt s.start.toInt hpos hle hlt
      omega
    · have hlast : i + 1 = ps.length := by omega
      rw [hlast] at hstop
      omega

/-- The parts of a span are a division of it. -/
theorem division_split (s : Span) (parts : Nat) : s.Division parts (s.split parts) := by
  rcases Nat.eq_zero_or_pos s.length with h0 | hpos
  · have hsplit : s.split parts = [s] := by rw [split, if_pos h0]
    have htotal := s.length_eq_sub
    rw [hsplit]
    refine ⟨⟨htotal, s.length_lt⟩, fun _ => rfl, fun h => absurd h (by omega), ⟨rfl, rfl⟩, ?_, ?_,
      fun h => absurd h (by omega), fun t => ?_, ?_⟩
    · rintro (_ | i) p hp
      · cases hp
        simp only [runningEnd, share, h0]
        simp only [h0] at htotal
        simp
        omega
      · cases hp
    · rintro (_ | i) p hp
      · cases hp
        simp [share, h0]
      · cases hp
    · simp [List.countP_cons]
    · rintro (_ | i) p hp
      · cases hp
        simp
      · cases hp
  · have hcount := length_split hpos parts
    refine division_of_bounds hpos hcount (s.tiles_split parts) fun i p hp => ?_
    rw [hcount]
    exact bounds_of_getElem? hpos parts hp

end CacheAside.Span
