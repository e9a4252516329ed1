/-!
Finite tables from keys to values. A table lists each of its keys once, in the order in which the
keys first came; it is read through `get?`, and each operation has one equation for that view.
-/

set_option autoImplicit false

namespace CacheAside

/-- Entries with pairwise distinct keys. -/
structure Table (K V : Type) where
  entries : List (K × V)
  nodup : (entries.map Prod.fst).Nodup

namespace Table

variable {K V : Type} [DecidableEq K]

def empty : Table K V :=
  ⟨[], List.nodup_nil⟩

instance : EmptyCollection (Table K V) := ⟨empty⟩

instance : Inhabited (Table K V) := ⟨empty⟩

def lookup (k : K) : List (K × V) → Option V
  | [] => none
  | (l, v) :: rest => if l = k then some v else lookup k rest

def get? (t : Table K V) (k : K) : Option V :=
  lookup k t.entries

def contains (t : Table K V) (k : K) : Bool :=
  (t.get? k).isSome

def size (t : Table K V) : Nat :=
  t.entries.length

def keys (t : Table K V) : List K :=
  t.entries.map Prod.fst

def values (t : Table K V) : List V :=
  t.entries.map Prod.snd

/-- Sets the value under a key where it stands, or at the end. -/
def put (k : K) (v : V) : List (K × V) → List (K × V)
  | [] => [(k, v)]
  | (l, w) :: rest => if l = k then (l, v) :: rest else (l, w) :: put k v rest

theorem mem_keys_put {k l : K} {v : V} {es : List (K × V)} :
    l ∈ (put k v es).map Prod.fst ↔ l = k ∨ l ∈ es.map Prod.fst := by
  induction es with
  | nil => simp [put]
  | cons e rest ih =>
    obtain ⟨m, w⟩ := e
    by_cases h : m = k
    · simp [put, h]
    · simp only [put, h, if_false, List.map_cons, List.mem_cons, ih]
      exact or_left_comm

theorem nodup_keys_put (k : K) (v : V) {es : List (K × V)} (h : (es.map Prod.fst).Nodup) :
    ((put k v es).map Prod.fst).Nodup := by
  induction es with
  | nil => simp [put]
  | cons e rest ih =>
    obtain ⟨m, w⟩ := e
    rw [List.map_cons, List.nodup_cons] at h
    by_cases hm : m = k
    · subst hm
      simp only [put, if_true, List.map_cons, List.nodup_cons]
      exact h
    · simp only [put, hm, if_false, List.map_cons, List.nodup_cons]
      refine ⟨fun hin => ?_, ih h.2⟩
      rcases mem_keys_put.1 hin with heq | hin
      · exact hm heq
      · exact h.1 hin

def insert (t : Table K V) (k : K) (v : V) : Table K V :=
  ⟨put k v t.entries, nodup_keys_put k v t.nodup⟩

def erase (t : Table K V) (k : K) : Table K V :=
  ⟨t.entries.filter (·.1 ≠ k), t.nodup.sublist (List.filter_sublist.map Prod.fst)⟩

def take (t : Table K V) (n : Nat) : Table K V :=
  ⟨t.entries.take n, t.nodup.sublist ((List.take_sublist n t.entries).map Prod.fst)⟩

def set (t : Table K V) (k : K) : Option V → Table K V
  | some v => t.insert k v
  | none => t.erase k

@[simp] theorem get?_empty (k : K) : (∅ : Table K V).get? k = none := rfl

theorem lookup_put (k l : K) (v : V) (es : List (K × V)) :
    lookup l (put k v es) = if k = l then some v else lookup l es := by
  induction es with
  | nil => rfl
  | cons e rest ih =>
    obtain ⟨m, w⟩ := e
    by_cases hm : m = k <;> by_cases hl : k = l <;> by_cases hml : m = l <;>
      simp_all [put, lookup]

@[simp] theorem get?_insert (t : Table K V) (k l : K) (v : V) :
    (t.insert k v).get? l = if k = l then some v else t.get? l :=
  lookup_put k l v t.entries

theorem lookup_filter_ne (k l : K) (es : List (K × V)) :
    lookup l (es.filter (·.1 ≠ k)) = if k = l then none else lookup l es := by
  induction es with
  | nil => simp [lookup]
  | cons e rest ih =>
    obtain ⟨m, w⟩ := e
    by_cases hm : m = k <;> by_cases hl : k = l <;> by_cases hml : m = l <;>
      simp_all [lookup]

@[simp] theorem get?_erase (t : Table K V) (k l : K) :
    (t.erase k).get? l = if k = l then none else t.get? l :=
  lookup_filter_ne k l t.entries

theorem lookup_eq_some_iff {es : List (K × V)} (h : (es.map Prod.fst).Nodup) (k : K) (v : V) :
    lookup k es = some v ↔ (k, v) ∈ es := by
  induction es with
  | nil => simp [lookup]
  | cons e rest ih =>
    obtain ⟨m, w⟩ := e
    rw [List.map_cons, List.nodup_cons] at h
    by_cases hm : m = k
    · subst hm
      have : ∀ u, (m, u) ∉ rest := fun u hu => h.1 (List.mem_map.2 ⟨(m, u), hu, rfl⟩)
      simp only [lookup, if_true, Option.some.injEq, List.mem_cons, Prod.mk.injEq, true_and, this,
        or_false]
      exact eq_comm
    · simp [lookup, hm, ih h.2, Ne.symm hm]

theorem mem_entries_iff (t : Table K V) (k : K) (v : V) :
    (k, v) ∈ t.entries ↔ t.get? k = some v :=
  (lookup_eq_some_iff t.nodup k v).symm

theorem length_put (k : K) (v : V) (es : List (K × V)) :
    (put k v es).length = if (lookup k es).isSome then es.length else es.length + 1 := by
  induction es with
  | nil => simp [put, lookup]
  | cons e rest ih =>
    obtain ⟨m, w⟩ := e
    by_cases hm : m = k
    · simp [put, lookup, hm]
    · simp only [put, lookup, hm, if_false, List.length_cons, ih]
      split <;> rfl

theorem size_insert (t : Table K V) (k : K) (v : V) :
    (t.insert k v).size = if t.contains k then t.size else t.size + 1 :=
  length_put k v t.entries

theorem lookup_eq_none_iff {k : K} {es : List (K × V)} :
    lookup k es = none ↔ k ∉ es.map Prod.fst := by
  induction es with
  | nil => simp [lookup]
  | cons e rest ih =>
    obtain ⟨l, v⟩ := e
    by_cases hl : l = k
    · simp [lookup, hl]
    · simp only [lookup, hl, if_false, ih, List.map_cons, List.mem_cons, Ne.symm hl, false_or]

theorem put_of_lookup_eq_none {k : K} {v : V} {es : List (K × V)} (h : lookup k es = none) :
    put k v es = es ++ [(k, v)] := by
  induction es with
  | nil => rfl
  | cons e rest ih =>
    obtain ⟨l, w⟩ := e
    by_cases hl : l = k
    · simp [lookup, hl] at h
    · rw [lookup, if_neg hl] at h
      simp [put, hl, ih h]

theorem filter_ne_of_notMem {k : K} {es : List (K × V)} (h : k ∉ es.map Prod.fst) :
    es.filter (·.1 ≠ k) = es :=
  List.filter_eq_self.2 fun e he => by
    have hne : e.1 ≠ k := fun heq => h (List.mem_map.2 ⟨e, he, heq⟩)
    simpa using hne

theorem perm_filter_ne {k : K} {v : V} {es : List (K × V)} (hd : (es.map Prod.fst).Nodup)
    (h : lookup k es = some v) : es.Perm ((k, v) :: es.filter (·.1 ≠ k)) := by
  induction es with
  | nil => simp [lookup] at h
  | cons e rest ih =>
    obtain ⟨l, w⟩ := e
    rw [List.map_cons, List.nodup_cons] at hd
    by_cases hl : l = k
    · subst hl
      simp only [lookup, if_true, Option.some.injEq] at h
      subst h
      rw [List.filter_cons_of_neg (by simp), filter_ne_of_notMem hd.1]
    · rw [lookup, if_neg hl] at h
      rw [List.filter_cons_of_pos (by simpa using hl)]
      exact ((ih hd.2 h).cons (l, w)).trans (.swap ..)

theorem put_append_cons {k : K} {l : List (K × V)} (h : k ∉ l.map Prod.fst) (v w : V)
    (r : List (K × V)) : put k v (l ++ (k, w) :: r) = l ++ (k, v) :: r := by
  induction l with
  | nil => simp [put]
  | cons e rest ih =>
    obtain ⟨m, u⟩ := e
    rw [List.map_cons, List.mem_cons, not_or] at h
    simp [put, Ne.symm h.1, ih h.2]

theorem filter_ne_put (k : K) (v : V) (es : List (K × V)) :
    (put k v es).filter (·.1 ≠ k) = es.filter (·.1 ≠ k) := by
  induction es with
  | nil => simp [put]
  | cons e rest ih =>
    obtain ⟨m, w⟩ := e
    by_cases hm : m = k
    · simp [put, hm]
    · simpa [put, hm] using ih

theorem perm_put {es fs : List (K × V)} (hd : (es.map Prod.fst).Nodup) (h : es.Perm fs) (k : K)
    (v : V) : (put k v es).Perm (put k v fs) := by
  have split (gs : List (K × V)) (hd : (gs.map Prod.fst).Nodup) :
      (put k v gs).Perm ((k, v) :: gs.filter (·.1 ≠ k)) := by
    have := perm_filter_ne (nodup_keys_put k v hd) (k := k) (v := v) (by simp [lookup_put])
    rwa [filter_ne_put] at this
  have hf := split fs ((h.map Prod.fst).nodup_iff.1 hd)
  exact (split es hd).trans (((h.filter _).cons _).trans hf.symm)

theorem size_erase (t : Table K V) (k : K) :
    (t.erase k).size ≤ t.size ∧ t.size ≤ (t.erase k).size + 1 := by
  refine ⟨List.length_filter_le _ _, ?_⟩
  cases h : lookup k t.entries with
  | none =>
    have := filter_ne_of_notMem (lookup_eq_none_iff.1 h)
    simp only [size, erase, this]
    omega
  | some v => simp [size, erase, (perm_filter_ne t.nodup h).length_eq]

def countOf [DecidableEq V] (t : Table K V) (v : V) : Nat :=
  t.values.count v

section CountOf

variable [DecidableEq V] {t : Table K V} {k : K}

theorem countOf_insert (h : t.get? k = none) (v w : V) :
    (t.insert k v).countOf w = t.countOf w + if v = w then 1 else 0 := by
  simp only [countOf, values, insert, put_of_lookup_eq_none h, List.map_append, List.count_append,
    List.map_cons, List.map_nil, List.count_singleton, beq_iff_eq]

theorem countOf_erase {v : V} (h : t.get? k = some v) (w : V) :
    t.countOf w = (t.erase k).countOf w + if v = w then 1 else 0 := by
  have hp := ((perm_filter_ne t.nodup h).map Prod.snd).count_eq w
  simpa only [countOf, values, erase, List.map_cons, List.count_cons, beq_iff_eq] using hp

theorem countOf_eq_zero_iff (t : Table K V) (v : V) :
    t.countOf v = 0 ↔ ∀ k, t.get? k ≠ some v := by
  rw [countOf, List.count_eq_zero]
  constructor
  · intro h k hk
    exact h (List.mem_map.2 ⟨(k, v), (t.mem_entries_iff k v).2 hk, rfl⟩)
  · intro h hv
    obtain ⟨⟨k, w⟩, he, rfl⟩ := List.mem_map.1 hv
    exact h k ((t.mem_entries_iff k w).1 he)

end CountOf

end Table

end CacheAside
