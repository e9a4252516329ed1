import CacheAside.Span

set_option autoImplicit false

namespace CacheAside.Span

/-- Spans that follow one another from one token to another. -/
def Tiles : Int64 → List Span → Int64 → Prop
  | a, [], b => a = b
  | a, p :: rest, b => p.start = a ∧ Tiles p.stop rest b

theorem contains_iff (s : Span) (t : Int64) : s.contains t = true ↔ s.start ≤ t ∧ t < s.stop := by
  simp [contains]

theorem not_contains_maxValue (s : Span) : s.contains Int64.maxValue = false := by
  have h : s.stop.toInt ≤ Int64.maxValue.toInt := Int64.toInt_le s.stop
  rw [← Bool.not_eq_true, contains_iff, Int64.lt_iff_toInt_lt]
  omega

theorem Tiles.le {a b : Int64} {parts : List Span} (h : Tiles a parts b) : a ≤ b := by
  induction parts generalizing a with
  | nil =>
    obtain rfl : a = b := h
    exact Int64.le_refl a
  | cons p rest ih =>
    obtain ⟨rfl, tail⟩ := h
    exact Int64.le_trans p.start_le_stop (ih tail)

theorem Tiles.le_start {a b : Int64} {parts : List Span} (h : Tiles a parts b) {p : Span}
    (hp : p ∈ parts) : a ≤ p.start := by
  induction parts generalizing a with
  | nil => exact nomatch hp
  | cons q rest ih =>
    obtain ⟨rfl, tail⟩ := h
    rcases List.mem_cons.1 hp with rfl | hp
    · exact Int64.le_refl p.start
    · exact Int64.le_trans q.start_le_stop (ih tail hp)

theorem Tiles.eq_of_contains {a b t : Int64} {parts : List Span} (h : Tiles a parts b)
    {p q : Span} (hp : p ∈ parts) (hq : q ∈ parts) (hpt : p.contains t = true)
    (hqt : q.contains t = true) : p = q := by
  induction parts generalizing a with
  | nil => exact nomatch hp
  | cons r rest ih =>
    obtain ⟨-, tail⟩ := h
    have apart : ∀ s ∈ rest, r.contains t = true → s.contains t = true → False := by
      intro s hs hrt hst
      have hle := Int64.le_iff_toInt_le.1 (tail.le_start hs)
      rw [contains_iff, Int64.lt_iff_toInt_lt] at hrt
      rw [contains_iff, Int64.le_iff_toInt_le] at hst
      omega
    rcases List.mem_cons.1 hp with rfl | hprest <;> rcases List.mem_cons.1 hq with rfl | hqrest
    · rfl
    · exact (apart q hqrest hpt hqt).elim
    · exact (apart p hprest hqt hpt).elim
    · exact ih tail hprest hqrest

/-- Picking by part is picking from the whole. -/
theorem Tiles.filter_perm {α : Type} (token : α → Int64) (l : List α) {a b : Int64}
    {parts : List Span} (h : Tiles a parts b) :
    (parts.flatMap fun p => l.filter fun x => p.contains (token x)).Perm
      (l.filter fun x => a ≤ token x && token x < b) := by
  induction parts generalizing a with
  | nil =>
    obtain rfl : a = b := h
    have : l.filter (fun x => decide (a ≤ token x) && decide (token x < a)) = [] := by
      refine List.filter_eq_nil_iff.2 fun x _ => ?_
      simp only [Bool.and_eq_true, decide_eq_true_eq, Int64.le_iff_toInt_le,
        Int64.lt_iff_toInt_lt]
      omega
    rw [this]
    exact .refl _
  | cons p rest ih =>
    obtain ⟨rfl, tail⟩ := h
    have hp := Int64.le_iff_toInt_le.1 p.start_le_stop
    have htail := Int64.le_iff_toInt_le.1 tail.le
    rw [List.flatMap_cons]
    refine ((ih tail).append_left _).trans ?_
    refine List.Perm.trans ?_ (List.filter_append_perm (fun x => decide (token x < p.stop)) _)
    rw [List.filter_filter, List.filter_filter]
    refine List.Perm.of_eq ?_
    congr 1 <;> refine List.filter_congr fun x _ => ?_
    · rw [Bool.eq_iff_iff]
      simp only [contains, Bool.and_eq_true, decide_eq_true_eq, Int64.le_iff_toInt_le,
        Int64.lt_iff_toInt_lt]
      omega
    · rw [Bool.eq_iff_iff]
      simp only [Bool.and_eq_true, Bool.not_eq_true', decide_eq_true_eq, decide_eq_false_iff_not,
        Int64.le_iff_toInt_le, Int64.lt_iff_toInt_lt]
      omega

theorem between?_of_le {lo hi : Int} (h : lo ≤ hi) (hlo : -0x8000000000000000 ≤ lo)
    (hhi : hi < 0x8000000000000000) :
    ∃ p, between? lo hi = some p ∧ p.start = Int64.ofInt lo ∧ p.stop = Int64.ofInt hi := by
  have hle : Int64.ofInt lo ≤ Int64.ofInt hi := by
    rw [Int64.le_iff_toInt_le, Int64.toInt_ofInt_of_le (by omega) (by omega),
      Int64.toInt_ofInt_of_le (by omega) (by omega)]
    exact h
  exact ⟨⟨_, _, hle⟩, dif_pos hle, rfl, rfl⟩

theorem tiles_of_cuts {c : Nat → Int} (mono : ∀ i, c i ≤ c (i + 1))
    (hlo : ∀ i, -0x8000000000000000 ≤ c i) (n j : Nat) (hhi : c (j + n) < 0x8000000000000000) :
    Tiles (Int64.ofInt (c j)) ((List.range' j n).filterMap fun i => between? (c i) (c (i + 1)))
      (Int64.ofInt (c (j + n))) := by
  have below : ∀ i d, c i ≤ c (i + d) := by
    intro i d
    induction d with
    | zero => exact Int.le_refl _
    | succ d ih => exact Int.le_trans ih (mono (i + d))
  induction n generalizing j with
  | zero => rfl
  | succ n ih =>
    have hstep : j + (n + 1) = j + 1 + n := by omega
    rw [hstep] at hhi ⊢
    have hnext : c (j + 1) < 0x8000000000000000 := Int.lt_of_le_of_lt (below (j + 1) n) hhi
    obtain ⟨p, hp, hstart, hstop⟩ := between?_of_le (mono j) (hlo j) hnext
    simp only [List.range'_succ, List.filterMap_cons, hp]
    exact ⟨hstart, hstop ▸ ih (j + 1) hhi⟩

theorem cut_le_succ (start : Int) (base extra i : Nat) :
    cut start base extra i ≤ cut start base extra (i + 1) := by
  simp only [cut, Nat.succ_mul]
  omega

/-- The parts of a span follow one another from its start to its stop. -/
theorem tiles_split (s : Span) (n : Nat) : Tiles s.start (s.split n) s.stop := by
  have hle := Int64.le_iff_toInt_le.1 s.start_le_stop
  rw [split]
  split
  · exact ⟨rfl, rfl⟩
  · rename_i hne
    dsimp only
    generalize hm : s.partCount n = m
    have hpos : 0 < m := by
      rw [← hm, partCount]
      omega
    have hlast : cut s.start.toInt (s.length / m) (s.length % m) (0 + m) = s.stop.toInt := by
      have hmod := Nat.mod_lt s.length hpos
      have hdiv := Nat.div_add_mod s.length m
      rw [cut, Nat.zero_add, Nat.min_eq_right (Nat.le_of_lt hmod), hdiv, length]
      omega
    have hfirst : cut s.start.toInt (s.length / m) (s.length % m) 0 = s.start.toInt := by
      simp [cut]
    have tiles := tiles_of_cuts (cut_le_succ s.start.toInt (s.length / m) (s.length % m))
      (fun i => ?_) m 0 ?_
    · rwa [hfirst, hlast, Int64.ofInt_toInt, Int64.ofInt_toInt, ← List.range_eq_range'] at tiles
    · have := Int64.le_toInt s.start
      rw [cut]
      omega
    · have := Int64.toInt_lt s.stop
      rw [hlast]
      omega

end CacheAside.Span
