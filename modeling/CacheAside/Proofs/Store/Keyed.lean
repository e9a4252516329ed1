import CacheAside.Access.Work

set_option autoImplicit false

namespace CacheAside

variable {E Out : Type} [Entity E]

namespace Entity

/-- The entity with its key stamped to it; one that bears a stamp stays as it is. -/
def ensureStamp (k : Key) (e : E) : E :=
  if (stamped? e).isSome then e else stamp k e

variable {k : Key} {e : E}

theorem stampedRow_of_key (h : key e = .ok k) : Work.stampedRow e = .ok (k, ensureStamp k e) := by
  cases hs : stamped? e with
  | some l =>
    rw [key_of_stamped hs] at h
    cases h
    simp [Work.stampedRow, ensureStamp, hs]
  | none =>
    rw [key, hs] at h
    simp [Work.stampedRow, ensureStamp, hs, show Key.derive (parts e) = .ok k from h]

theorem stamped?_ensureStamp [LawfulEntity E] (h : key e = .ok k) :
    stamped? (ensureStamp k e) = some k := by
  cases hs : stamped? e with
  | some l =>
    rw [key_of_stamped hs] at h
    cases h
    simp [ensureStamp, hs]
  | none => simp [ensureStamp, hs, LawfulEntity.stamped?_stamp]

end Entity

namespace RowStore

omit [Entity E] in
theorem get?_of_mem_rowsIn {s : RowStore E} {start stop : Int64} {e : E}
    (h : e ∈ s.rowsIn start stop) : ∃ k, s.rows.get? k = some e := by
  obtain ⟨⟨k, f⟩, hf, rfl⟩ := List.mem_map.1 h
  exact ⟨k, (s.rows.mem_entries_iff k f).1 (List.mem_filter.1 hf).1⟩

theorem save_fst (s : RowStore E) {k : Key} {e : E} (h : Entity.key e = .ok k) :
    (s.save e).1 = .ok true := by
  simp [RowStore.save, keyOf, h]

theorem rows_save (s : RowStore E) {k : Key} {e : E} (h : Entity.key e = .ok k) :
    (s.save e).2.rows = s.rows.insert k e := by
  simp [RowStore.save, keyOf, h]

theorem rows_remove (s : RowStore E) {k : Key} {e : E} (h : Entity.key e = .ok k) :
    (s.remove e).2.rows = s.rows.erase k := by
  simp [RowStore.remove, keyOf, h]

/-- The stores that calls lead to. -/
inductive Built : RowStore E → Prop
  | empty : Built .empty
  | seed {s : RowStore E} (h : Built s) (rows : List E) : Built (s.seed rows).2
  | find {s : RowStore E} (h : Built s) (parts : List KeyPart) : Built (s.find parts).2
  | save {s : RowStore E} (h : Built s) (e : E) : Built (s.save e).2
  | remove {s : RowStore E} (h : Built s) (e : E) : Built (s.remove e).2
  | load {s : RowStore E} (h : Built s) : Built s.countLoad

def Keyed (s : RowStore E) : Prop :=
  ∀ k e, s.rows.get? k = some e → Entity.key e = .ok k

variable {s t : RowStore E}

theorem Keyed.insert (h : s.Keyed) {k : Key} {e : E} (hk : Entity.key e = .ok k)
    (ht : t.rows = s.rows.insert k e) : t.Keyed := by
  intro l f hf
  rw [ht, Table.get?_insert] at hf
  split at hf
  · cases hf
    rwa [← ‹k = l›]
  · exact h l f hf

theorem Keyed.erase (h : s.Keyed) {k : Key} (ht : t.rows = s.rows.erase k) : t.Keyed := by
  intro l f hf
  rw [ht, Table.get?_erase] at hf
  split at hf
  · cases hf
  · exact h l f hf

theorem Keyed.seed (h : s.Keyed) (rows : List E) : (s.seed rows).2.Keyed := by
  induction rows generalizing s with
  | nil => exact h
  | cons e rest ih =>
    cases hk : Entity.key e with
    | error err => simpa [RowStore.seed, keyOf, hk] using h
    | ok k =>
      simp only [RowStore.seed, keyOf, hk]
      exact ih (h.insert hk rfl)

theorem Built.keyed (h : s.Built) : s.Keyed := by
  induction h with
  | empty => exact fun _ _ hn => nomatch hn
  | seed _ rows ih => exact ih.seed rows
  | find _ _ ih => exact ih
  | load _ ih => exact ih
  | save _ e ih =>
    cases hk : Entity.key e with
    | error err => simpa [RowStore.save, keyOf, hk, Keyed] using ih
    | ok k => exact ih.insert hk (rows_save _ hk)
  | remove _ e ih =>
    cases hk : Entity.key e with
    | error err => simpa [RowStore.remove, keyOf, hk, Keyed] using ih
    | ok k => exact ih.erase (rows_remove _ hk)

end RowStore

end CacheAside
