import CacheAside.Proofs.Access.Operations
import CacheAside.Proofs.Map.Calls
import CacheAside.Proofs.Store.Keyed

set_option autoImplicit false

namespace CacheAside

variable {E Out L : Type}

/-- The entities that were written, each stamped, under their keys. -/
abbrev Ledger (E : Type) : Type :=
  Table Key E

def granted : Option (Result (Answer E Out)) → Bool
  | some (.ok (.applied yes)) => yes
  | _ => false

namespace Ledger

variable [Entity E]

def enter (l : Ledger E) (e : E) : Ledger E :=
  match Entity.key e with
  | .ok k => l.insert k (Entity.stamp k e)
  | .error _ => l

def strike (l : Ledger E) (e : E) : Ledger E :=
  match Entity.key e with
  | .ok k => l.erase k
  | .error _ => l

def enterAll (l : Ledger E) : List E → Ledger E
  | [] => l
  | e :: rest =>
    match Entity.key e with
    | .ok _ => (l.enter e).enterAll rest
    | .error _ => l

/-- The ledger after an operation of which the store applied the write, or did not. -/
def post (l : Ledger E) : Operation E → Bool → Ledger E
  | .save e, true => l.enter e
  | .remove e, true => l.strike e
  | _, _ => l

@[simp] theorem post_false (l : Ledger E) (op : Operation E) : l.post op false = l := by
  cases op <;> rfl

theorem post_save (l : Ledger E) {e : E} {k : Key} (hk : Entity.key e = .ok k) (b : Bool) :
    l.post (.save e) b = if b then l.insert k (Entity.stamp k e) else l := by
  cases b <;> simp [post, enter, hk]

theorem post_remove (l : Ledger E) {e : E} {k : Key} (hk : Entity.key e = .ok k) (b : Bool) :
    l.post (.remove e) b = if b then l.erase k else l := by
  cases b <;> simp [post, strike, hk]

end Ledger

namespace Entity

variable [Entity E] [LawfulEntity E]

theorem stamp_of_stamped {e : E} {k : Key} (h : stamped? e = some k) : stamp k e = e :=
  LawfulEntity.stamp_self k e h

theorem stampedRow_eq {e : E} {k : Key} (h : key e = .ok k) :
    Work.stampedRow e = .ok (k, stamp k e) := by
  unfold key at h
  unfold Work.stampedRow
  cases hs : stamped? e with
  | some l =>
    simp only [hs, Except.ok.injEq] at h
    subst h
    rw [stamp_of_stamped hs]
  | none =>
    simp only [hs] at h
    simp [h]

end Entity

structure Filed [Entity E] (l : Ledger E) (store : RowStore E) : Prop where
  keyed : ∀ k e, store.rows.get? k = some e → Entity.key e = .ok k
  rows : ∀ k, (store.rows.get? k).map (Entity.stamp k) = l.get? k

namespace Filed

variable [Entity E] {l : Ledger E} {store other : RowStore E}

theorem congr (h : Filed l store) (hr : ∀ k, other.rows.get? k = store.rows.get? k) :
    Filed l other :=
  ⟨fun k e he => h.keyed k e (hr k ▸ he), fun k => hr k ▸ h.rows k⟩

theorem get?_eq (h : Filed l store) {k : Key} {e : E} (he : store.rows.get? k = some e) :
    l.get? k = some (Entity.stamp k e) := by
  rw [← h.rows k, he]
  rfl

theorem enter (h : Filed l store) {e : E} {k : Key} (hk : Entity.key e = .ok k)
    (hr : other.rows = store.rows.insert k e) : Filed (l.insert k (Entity.stamp k e)) other := by
  refine ⟨fun m f hf => ?_, fun m => ?_⟩
  · rw [hr, Table.get?_insert] at hf
    split at hf
    · cases hf
      rwa [← ‹k = m›]
    · exact h.keyed m f hf
  · rw [hr, Table.get?_insert, Table.get?_insert]
    split
    · rw [← ‹k = m›]
      rfl
    · exact h.rows m

theorem strike (h : Filed l store) {k : Key} (hr : other.rows = store.rows.erase k) :
    Filed (l.erase k) other := by
  refine ⟨fun m f hf => ?_, fun m => ?_⟩
  · rw [hr, Table.get?_erase] at hf
    split at hf
    · cases hf
    · exact h.keyed m f hf
  · rw [hr, Table.get?_erase, Table.get?_erase]
    split
    · rfl
    · exact h.rows m

theorem empty : Filed (∅ : Ledger E) (RowStore.empty : RowStore E) :=
  ⟨fun _ _ h => (nomatch h), fun _ => rfl⟩

theorem seed (h : Filed l store) (rows : List E) :
    Filed (l.enterAll rows) (store.seed rows).2 := by
  induction rows generalizing l store with
  | nil => exact h
  | cons e rest ih =>
    cases hk : Entity.key e with
    | error err => simpa [RowStore.seed, RowStore.keyOf, Ledger.enterAll, hk] using h
    | ok k =>
      simp only [RowStore.seed, RowStore.keyOf, Ledger.enterAll, Ledger.enter, hk]
      exact ih (h.enter hk rfl)

/-- The rows of a span are in the ledger under their keys. -/
theorem mem_rowsIn (h : Filed l store) {start stop : Int64} {e : E}
    (he : e ∈ store.rowsIn start stop) :
    ∃ k, Entity.key e = .ok k ∧ l.get? k = some (Entity.stamp k e) := by
  obtain ⟨k, hget⟩ := RowStore.get?_of_mem_rowsIn he
  exact ⟨k, h.keyed k e hget, h.get?_eq hget⟩

end Filed

/-- A map that retains nothing is empty, and any other shows what the ledger has. -/
structure Cached (l : Ledger E) (map : EntryMap E) : Prop where
  vacant : map.policy.retains = false → ∀ k, map.get? k = none
  agrees : ∀ k e, map.get? k = some e → l.get? k = some e

namespace Cached

variable {l : Ledger E} {map : EntryMap E} {k : Key} {e : E}

theorem shown (h : Cached l map) : Shown (fun k e => l.get? k = some e) map :=
  ⟨h.vacant, h.agrees⟩

theorem of_shown (h : Shown (fun k e => l.get? k = some e) map) : Cached l map :=
  ⟨h.vacant, h.entry⟩

theorem create {name : String} {policy : MapPolicy} (l : Ledger E)
    (h : EntryMap.create name policy = .ok map) : Cached l map :=
  of_shown (.create _ h)

theorem mono {m : Ledger E} (h : Cached l map)
    (hm : ∀ k e, l.get? k = some e → m.get? k = some e) : Cached m map :=
  ⟨h.vacant, fun k e he => hm k e (h.agrees k e he)⟩

theorem lose (h : Cached l map) (k : Key) : Cached l (map.lose k) :=
  of_shown (h.shown.lose k)

theorem strike (h : Cached l map) (k : Key) : Cached (l.erase k) (map.lose k) := by
  refine ⟨(h.lose k).vacant, fun m f hf => ?_⟩
  rw [EntryMap.get?_lose] at hf
  rw [Table.get?_erase]
  split
  · simp [‹k = m›] at hf
  · exact h.agrees m f (by simpa [‹¬ k = m›] using hf)

theorem enter (h : Cached l map) (k : Key) (e : E) : Cached (l.insert k e) (map.put k e) := by
  cases hr : map.policy.retains with
  | false =>
    have hput : map.put k e = map := by simp [EntryMap.put, hr]
    rw [hput]
    exact ⟨h.vacant, fun m f hf => by simp [h.vacant hr m] at hf⟩
  | true =>
    refine ⟨fun hf => by simp [hr] at hf, fun m f hf => ?_⟩
    rw [EntryMap.get?_put hr] at hf
    rw [Table.get?_insert]
    split
    · simpa [‹k = m›] using hf
    · exact h.agrees m f (by simpa [‹¬ k = m›] using hf)

theorem put (h : Cached l map) (hk : l.get? k = some e) : Cached l (map.put k e) :=
  of_shown (h.shown.put hk)

theorem refill (h : Cached l map) (hk : l.get? k = some e) :
    Cached l (map.submit k (.insertIfAbsent e)).2 :=
  of_shown (h.shown.refill hk)

end Cached

open Tiers in
/-- The states that operations one after the other lead to, each with the ledger of the writes
that the store applied on the way. -/
inductive Session [Entity E] (climate : Climate E Out) (s₀ : Tiers E Out L) (l₀ : Ledger E) :
    Tiers E Out L → Ledger E → Prop
  | start : Session climate s₀ l₀ s₀ l₀
  | next {s : Tiers E Out L} {l : Ledger E} (client : Client L) (op : Operation E)
      (events : List (Event E Out L)) (before : Session climate s₀ l₀ s l)
      (permitted : (s.begin client op).PermitsAll climate events)
      (settled : ((s.begin client op).run events).Settled) :
      Session climate s₀ l₀ ((s.begin client op).run events)
        (l.post op (granted (((s.begin client op).run events).result? s.tasks.length)))

end CacheAside
