import CacheAside.Document.Collection
import Mathlib.Data.List.Perm.Basic

set_option autoImplicit false

namespace CacheAside

/-- Whether the order of what is listed is kept from one listing to the next. -/
inductive Listing where
  | kept
  | any

namespace Listing

variable {α β : Type}

def Same : Listing → List α → List α → Prop
  | .kept, as, bs => as = bs
  | .any, as, bs => as.Perm bs

variable {o : Listing} {as bs cs ds : List α}

theorem Same.refl (o : Listing) (as : List α) : o.Same as as := by
  cases o
  · rfl
  · exact List.Perm.refl as

theorem Same.perm (h : o.Same as bs) : as.Perm bs := by
  cases o
  · exact List.Perm.of_eq h
  · exact h

theorem Same.symm (h : o.Same as bs) : o.Same bs as := by
  cases o
  · exact Eq.symm h
  · exact List.Perm.symm h

theorem Same.trans (h : o.Same as bs) (h' : o.Same bs cs) : o.Same as cs := by
  cases o
  · exact Eq.trans h h'
  · exact List.Perm.trans h h'

theorem Same.append (h : o.Same as bs) (h' : o.Same cs ds) : o.Same (as ++ cs) (bs ++ ds) := by
  cases o
  · exact congrArg₂ (· ++ ·) h h'
  · exact List.Perm.append h h'

theorem Same.filter (h : o.Same as bs) (p : α → Bool) : o.Same (as.filter p) (bs.filter p) := by
  cases o
  · exact congrArg (List.filter p) h
  · exact List.Perm.filter p h

theorem Same.map (h : o.Same as bs) (f : α → β) : o.Same (as.map f) (bs.map f) := by
  cases o
  · exact congrArg (List.map f) h
  · exact List.Perm.map f h

theorem Same.exists_forall₂ {R : α → β → Prop} (h : o.Same as bs) {xs : List β}
    (hx : List.Forall₂ R bs xs) : ∃ ys, List.Forall₂ R as ys ∧ o.Same ys xs := by
  cases o
  · obtain rfl := h
    exact ⟨xs, hx, rfl⟩
  · exact List.perm_comp_forall₂ h hx

end Listing

namespace Document

structure HeldAs (new d : Document) (id : DocValue) : Prop where
  id : d.get? "_id" = some id
  rest : ∀ name, name ≠ "_id" → d.get? name = new.get? name

theorem heldAs_withId (new : Document) (id : DocValue) : new.HeldAs (new.withId id) id := by
  refine ⟨by simp [withId, get?_put], fun name hname => ?_⟩
  simp [withId, get?_put, get?_erase, hname.symm]

variable (o : Listing) (filter new : Document) (before after : List Document)

/-- One document that meets the filter was replaced under its id, or there was none and the new one
was inserted, under its own id or one that was made up. -/
inductive Written : Replaced → Prop
  | replaced {l r : List Document} {old d : Document} (meets : old.meets filter = true)
    (had : o.Same before (l ++ old :: r)) (has : o.Same after (l ++ d :: r))
    (held : ∀ id, old.get? "_id" = some id → new.HeldAs d id) : Written ⟨1, none⟩
  | inserted {d : Document} {id : DocValue} (absent : ∀ e ∈ before, e.meets filter = false)
    (has : o.Same after (before ++ [d])) (held : new.HeldAs d id)
    (own : ∀ i, new.get? "_id" = some i → id = i)
    (made : new.get? "_id" = none → ∃ i, id = .objectId i) : Written ⟨0, some id⟩

inductive Deleted : Nat → Prop
  | one {l r : List Document} {old : Document} (meets : old.meets filter = true)
    (had : o.Same before (l ++ old :: r)) (has : o.Same after (l ++ r)) : Deleted 1
  | none (absent : ∀ e ∈ before, e.meets filter = false) (has : o.Same after before) : Deleted 0

end Document

open Document in
/-- What a collection promises of the documents it holds. A search gives one that meets the filter
if there is one, and commands leave all documents but the one they are about. -/
structure Documents.Laws (C : Type) [Documents C] (o : Listing) (held : C → List Document) :
    Prop where
  find_some : ∀ (c : C) (filter d : Document), find? c filter = some d →
    d ∈ held c ∧ d.meets filter = true
  find_none : ∀ (c : C) (filter : Document), find? c filter = none →
    ∀ d ∈ held c, d.meets filter = false
  scan : ∀ (c : C) (name : String) (start stop : Int64),
    o.Same (scan c name start stop) ((held c).filter (·.within name start stop))
  written : ∀ (c : C) (filter new : Document),
    Written o filter new (held c) (held (replaceOrInsert c filter new).2)
      (replaceOrInsert c filter new).1
  deleted : ∀ (c : C) (filter : Document),
    Deleted o filter (held c) (held (deleteFirst c filter).2) (deleteFirst c filter).1

namespace Collection

/-- The first document that meets the filter is renewed, or none meets it. -/
theorem replaceFirst_cases (filter new : Document) (ds : List Document) :
    (∃ l old r, ds = l ++ old :: r ∧ old.meets filter = true ∧
        replaceFirst filter new ds = some (l ++ renew old new :: r)) ∨
      (∀ d ∈ ds, d.meets filter = false) ∧ replaceFirst filter new ds = none := by
  induction ds with
  | nil => exact .inr ⟨by simp, rfl⟩
  | cons d rest ih =>
    by_cases hd : d.meets filter = true
    · exact .inl ⟨[], d, rest, rfl, hd, by simp [replaceFirst, hd]⟩
    · rcases ih with ⟨l, old, r, rfl, hold, hr⟩ | ⟨hnone, hr⟩
      · exact .inl ⟨d :: l, old, r, rfl, hold, by simp [replaceFirst, hd, hr]⟩
      · exact .inr ⟨by simpa [hd] using hnone, by simp [replaceFirst, hd, hr]⟩

theorem mem_of_find? {c : Collection} {filter d : Document} (h : c.find? filter = some d) :
    d ∈ c.documents ∧ d.meets filter = true :=
  ⟨List.mem_of_find?_eq_some h, List.find?_some (p := fun e : Document => e.meets filter) h⟩

theorem heldAs_renew (old new : Document) (id : DocValue) (h : old.get? "_id" = some id) :
    new.HeldAs (renew old new) id := by
  rw [renew, h]
  exact new.heldAs_withId id

theorem written (c : Collection) (filter new : Document) :
    Document.Written .kept filter new c.documents (c.replaceOrInsert filter new).2.documents
      (c.replaceOrInsert filter new).1 := by
  rcases replaceFirst_cases filter new c.documents with ⟨l, old, r, hds, hold, hr⟩ | ⟨hnone, hr⟩
  · simp only [replaceOrInsert, hr]
    exact .replaced hold hds rfl (heldAs_renew old new)
  · cases hid : new.get? "_id" with
    | some id =>
      simp only [replaceOrInsert, hr, insert, hid]
      exact .inserted hnone rfl ⟨hid, fun _ _ => rfl⟩ (by simp [hid]) (by simp [hid])
    | none =>
      simp only [replaceOrInsert, hr, insert, hid]
      exact .inserted hnone rfl (new.heldAs_withId _) (by simp [hid]) fun _ => ⟨_, rfl⟩

theorem deleted (c : Collection) (filter : Document) :
    Document.Deleted .kept filter c.documents (c.deleteFirst filter).2.documents
      (c.deleteFirst filter).1 := by
  cases hfind : c.find? filter with
  | some d =>
    obtain ⟨hmem, hmeets⟩ := mem_of_find? hfind
    obtain ⟨old, l, r, -, hold, hds, herase⟩ :=
      List.exists_of_eraseP (p := (·.meets filter)) hmem hmeets
    simp only [deleteFirst, hfind, herase]
    exact .one hold hds rfl
  | none =>
    have hnone : ∀ d ∈ c.documents, ¬ d.meets filter = true := List.find?_eq_none.1 hfind
    simp only [deleteFirst, hfind, List.eraseP_of_forall_not hnone]
    exact .none (by simpa using hnone) rfl

/-- A collection of documents in a list keeps their order. -/
theorem laws : Documents.Laws Collection .kept documents where
  find_some _ _ _ := mem_of_find?
  find_none _ _ h := by simpa using List.find?_eq_none.1 h
  scan _ _ _ _ := rfl
  written := written
  deleted := deleted

end Collection

end CacheAside
