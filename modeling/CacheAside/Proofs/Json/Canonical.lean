import CacheAside.Json.Writer
import CacheAside.Proofs.Json.Equality
import Mathlib.Data.List.Perm.Subperm

set_option autoImplicit false

namespace CacheAside.Json

section Sorting

variable {α β : Type}

theorem insertField_map (g : α → β) (f : String × α) (fs : List (String × α)) :
    insertField (f.1, g f.2) (fs.map fun f => (f.1, g f.2)) =
      (insertField f fs).map fun f => (f.1, g f.2) := by
  induction fs with
  | nil => rfl
  | cons h rest ih =>
    simp only [List.map_cons, insertField]
    split
    · simp [ih]
    · simp

theorem sortFields_map (g : α → β) (fs : List (String × α)) :
    sortFields (fs.map fun f => (f.1, g f.2)) = (sortFields fs).map fun f => (f.1, g f.2) := by
  induction fs with
  | nil => rfl
  | cons f rest ih =>
    calc sortFields ((f :: rest).map fun f => (f.1, g f.2))
        = insertField (f.1, g f.2) (sortFields (rest.map fun f => (f.1, g f.2))) := rfl
      _ = insertField (f.1, g f.2) ((sortFields rest).map fun f => (f.1, g f.2)) := by rw [ih]
      _ = (sortFields (f :: rest)).map fun f => (f.1, g f.2) := insertField_map g f _

def Ascending (fs : List (String × α)) : Prop :=
  fs.Pairwise fun f g => f.1 ≤ g.1

theorem Ascending.insertField {f : String × α} {fs : List (String × α)} (h : Ascending fs) :
    Ascending (insertField f fs) := by
  induction fs with
  | nil => exact List.pairwise_singleton _ _
  | cons g rest ih =>
    obtain ⟨hg, hrest⟩ := List.pairwise_cons.1 h
    unfold Json.insertField
    split
    · rename_i hlt
      refine List.pairwise_cons.2 ⟨fun x hx => ?_, ih hrest⟩
      rcases List.mem_cons.1 ((insertField_perm f rest).mem_iff.1 hx) with rfl | hx
      · exact String.not_lt.1 (String.lt_asymm hlt)
      · exact hg x hx
    · rename_i hge
      have hfg : f.1 ≤ g.1 := String.not_lt.1 hge
      refine List.pairwise_cons.2 ⟨fun x hx => ?_, h⟩
      rcases List.mem_cons.1 hx with rfl | hx
      · exact hfg
      · exact String.le_trans hfg (hg x hx)

theorem ascending_sortFields (fs : List (String × α)) : Ascending (sortFields fs) := by
  induction fs with
  | nil => exact List.Pairwise.nil
  | cons f rest ih => exact ih.insertField

theorem mem_sortFields {f : String × α} {fs : List (String × α)} : f ∈ sortFields fs ↔ f ∈ fs :=
  (sortFields_perm fs).mem_iff

theorem names_sortFields {as : List (String × α)} {bs : List (String × β)}
    (h : (as.map Prod.fst).Perm (bs.map Prod.fst)) :
    (sortFields as).map Prod.fst = (sortFields bs).map Prod.fst := by
  refine List.Perm.eq_of_pairwise (fun a b _ _ => String.le_antisymm) ?_ ?_ ?_
  · exact List.pairwise_map.2 (ascending_sortFields as)
  · exact List.pairwise_map.2 (ascending_sortFields bs)
  · exact ((sortFields_perm as).map _).trans (h.trans ((sortFields_perm bs).map _).symm)

theorem forall₂_of_names {S : String × α → String × β → Prop} {xs : List (String × α)}
    {ys : List (String × β)} (hnames : xs.map Prod.fst = ys.map Prod.fst)
    (h : ∀ f ∈ xs, ∀ g ∈ ys, f.1 = g.1 → S f g) : List.Forall₂ S xs ys := by
  induction xs generalizing ys with
  | nil =>
    cases ys with
    | nil => exact .nil
    | cons g ys => cases hnames
  | cons f xs ih =>
    cases ys with
    | nil => cases hnames
    | cons g ys =>
      rw [List.map_cons, List.map_cons, List.cons.injEq] at hnames
      refine .cons (h f List.mem_cons_self g List.mem_cons_self hnames.1) (ih hnames.2 ?_)
      exact fun f' hf g' hg => h f' (List.mem_cons_of_mem f hf) g' (List.mem_cons_of_mem g hg)

/-- Fields that have counterparts of their names stand side by side with them once sorted. -/
theorem sortFields_aligned {R : α → β → Prop} {as : List (String × α)} {bs : List (String × β)}
    (hlen : as.length = bs.length) (ha : (as.map Prod.fst).Nodup) (hb : (bs.map Prod.fst).Nodup)
    (h : ∀ f ∈ as, ∃ b, Table.lookup f.1 bs = some b ∧ R f.2 b) :
    List.Forall₂ (fun f g => f.1 = g.1 ∧ R f.2 g.2) (sortFields as) (sortFields bs) := by
  have hsub : as.map Prod.fst ⊆ bs.map Prod.fst := by
    intro n hn
    obtain ⟨f, hf, rfl⟩ := List.mem_map.1 hn
    obtain ⟨b, hlookup, -⟩ := h f hf
    exact List.mem_map.2 ⟨(f.1, b), (Table.lookup_eq_some_iff hb f.1 b).1 hlookup, rfl⟩
  have hperm : (as.map Prod.fst).Perm (bs.map Prod.fst) :=
    (List.subperm_of_subset ha hsub).perm_of_length_le (by simp [hlen])
  refine forall₂_of_names (names_sortFields hperm) fun f hf g hg hfg => ⟨hfg, ?_⟩
  obtain ⟨b, hlookup, hR⟩ := h f (mem_sortFields.1 hf)
  have hg' := (Table.lookup_eq_some_iff hb g.1 g.2).2 (mem_sortFields.1 hg)
  rw [hfg, hg'] at hlookup
  rwa [Option.some.inj hlookup]

end Sorting

theorem chars_of_isZero {x : Binary64} (h : x.isZero = true) :
    x.chars = signed x.isNegative ['0', '.', '0'] := by
  have hm : x.magnitude = 0 := by simpa [Binary64.isZero] using h
  rw [Binary64.chars, hm]
  rfl

theorem float_append_iff {x y : Binary64} (h : x.same y = true) (r s : List Char) :
    x.chars ++ r = y.chars ++ s ↔ x.isNegative = y.isNegative ∧ r = s := by
  obtain ⟨-, -, h⟩ := (Binary64.same_iff x y).1 h
  rcases h with rfl | ⟨hx, hy⟩
  · simp
  · rw [chars_of_isZero hx, chars_of_isZero hy]
    cases x.isNegative <;> cases y.isNegative <;> simp [signed]

theorem commaSeparated_append_iff {α : Type} {text : α → List Char} {A : α → α → Prop}
    {as bs : List α}
    (h : List.Forall₂ (fun a b => ∀ r s, text a ++ r = text b ++ s ↔ A a b ∧ r = s) as bs)
    (r s : List Char) :
    commaSeparated (as.map text) ++ r = commaSeparated (bs.map text) ++ s ↔
      List.Forall₂ A as bs ∧ r = s := by
  induction h with
  | nil => simp [commaSeparated]
  | @cons a b as bs hab hrest ih =>
    cases hrest with
    | nil => simp [commaSeparated, hab]
    | @cons c d cs ds hcd hrest =>
      simp only [List.map_cons, commaSeparated, List.append_assoc, List.cons_append, hab,
        List.cons.injEq, true_and, List.forall₂_cons, and_assoc] at ih ⊢
      rw [ih]

theorem canonicalItems_eq (items : List Json) :
    canonicalItems items = items.map canonicalChars := by
  induction items with
  | nil => rfl
  | cons v rest ih => rw [canonicalItems, ih, List.map_cons]

theorem canonicalFields_eq (fields : List (String × Json)) :
    canonicalFields fields = fields.map fun f => (f.1, f.2.canonicalChars) := by
  induction fields with
  | nil => rfl
  | cons f rest ih => rw [canonicalFields, ih, List.map_cons]

theorem canonicalChars_object (fields : List (String × Json)) :
    (Json.object fields).canonicalChars = '{' ::
      commaSeparated ((sortFields fields).map fun f => fieldChars (f.1, f.2.canonicalChars)) ++
        ['}'] := by
  rw [canonicalChars, canonicalFields_eq, sortFields_map, List.map_map]
  rfl

theorem fieldChars_append_iff {f g : String × Json} (hname : f.1 = g.1)
    (h : ∀ r s, f.2.canonicalChars ++ r = g.2.canonicalChars ++ s ↔ f.2.alike g.2 = true ∧ r = s)
    (r s : List Char) :
    fieldChars (f.1, f.2.canonicalChars) ++ r = fieldChars (g.1, g.2.canonicalChars) ++ s ↔
      (f.1 = g.1 ∧ f.2.alike g.2 = true) ∧ r = s := by
  simp only [fieldChars, hname, List.append_assoc, List.cons_append, List.append_cancel_left_eq,
    List.cons.injEq, true_and, h]

theorem exists_of_forall₂ {α β : Type} {R : α → β → Prop} {xs : List α} {ys : List β}
    (h : List.Forall₂ R xs ys) : ∀ x ∈ xs, ∃ y ∈ ys, R x y := by
  induction h with
  | nil => exact fun x hx => (nomatch hx)
  | @cons a b as bs hab _ ih =>
    intro x hx
    rcases List.mem_cons.1 hx with rfl | hx
    · exact ⟨b, List.mem_cons_self, hab⟩
    · obtain ⟨y, hy, hxy⟩ := ih x hx
      exact ⟨y, List.mem_cons_of_mem b hy, hxy⟩

theorem forall₂_imp_mem {α β : Type} {R S : α → β → Prop} {xs : List α} {ys : List β}
    (h : List.Forall₂ R xs ys) (himp : ∀ x ∈ xs, ∀ y ∈ ys, R x y → S x y) :
    List.Forall₂ S xs ys := by
  induction h with
  | nil => exact .nil
  | @cons a b as bs hab _ ih =>
    refine .cons (himp a List.mem_cons_self b List.mem_cons_self hab) (ih fun x hx y hy => ?_)
    exact himp x (List.mem_cons_of_mem a hx) y (List.mem_cons_of_mem b hy)

section SameBy

variable {eq : Binary64 → Binary64 → Bool}

theorem sameBy_list_iff {as bs : List Json} :
    (Json.list as).sameBy eq (.list bs) = true ↔
      List.Forall₂ (fun a b => a.sameBy eq b = true) as bs :=
  sameItemsBy_iff

theorem sameBy_object_of_perm {as bs cs ds : List (String × Json)} (hb : (bs.map Prod.fst).Nodup)
    (hc : cs.Perm as) (hd : ds.Perm bs)
    (h : List.Forall₂ (fun f g => f.1 = g.1 ∧ f.2.sameBy eq g.2 = true) cs ds) :
    (Json.object as).sameBy eq (.object bs) = true := by
  rw [sameBy, Bool.and_eq_true, beq_iff_eq, sameFieldsBy_iff]
  refine ⟨?_, fun f hf => ?_⟩
  · rw [← hc.length_eq, h.length_eq, hd.length_eq]
  · obtain ⟨g, hg, hname, hfg⟩ := exists_of_forall₂ h f (hc.mem_iff.2 hf)
    refine ⟨g.2, ?_, hfg⟩
    rw [hname]
    exact (Table.lookup_eq_some_iff hb g.1 g.2).2 (hd.mem_iff.1 hg)

/-- Objects are the same when their fields are, side by side once sorted. -/
theorem sameBy_object_iff {as bs : List (String × Json)} (ha : (as.map Prod.fst).Nodup)
    (hb : (bs.map Prod.fst).Nodup) :
    (Json.object as).sameBy eq (.object bs) = true ↔
      List.Forall₂ (fun f g => f.1 = g.1 ∧ f.2.sameBy eq g.2 = true)
        (sortFields as) (sortFields bs) := by
  constructor
  · intro h
    rw [sameBy, Bool.and_eq_true, beq_iff_eq, sameFieldsBy_iff] at h
    exact sortFields_aligned (R := fun a b => a.sameBy eq b = true) h.1 ha hb h.2
  · exact sameBy_object_of_perm hb (sortFields_perm as) (sortFields_perm bs)

end SameBy

/-- Texts of equal values, with anything behind them, agree just when the values are alike. -/
theorem canonicalChars_append_iff {a b : Json} (ha : a.Distinct) (hb : b.Distinct)
    (h : a.same b = true) (r s : List Char) :
    a.canonicalChars ++ r = b.canonicalChars ++ s ↔ a.alike b = true ∧ r = s := by
  rw [same_eq_sameBy] at h
  -- `r` and `s` stay general: for an item they are the commas and items behind it.
  induction ha generalizing b r s with
  | null =>
    cases b <;> simp only [sameBy, Bool.false_eq_true] at h
    simp [canonicalChars, alike, sameBy]
  | bool x =>
    cases b <;> simp only [sameBy, Bool.false_eq_true, beq_iff_eq] at h
    subst h
    simp [canonicalChars, alike, sameBy]
  | int n =>
    cases b <;> simp only [sameBy, Bool.false_eq_true, beq_iff_eq] at h
    subst h
    simp [canonicalChars, alike, sameBy]
  | text t =>
    cases b <;> simp only [sameBy, Bool.false_eq_true, beq_iff_eq] at h
    subst h
    simp [canonicalChars, alike, sameBy]
  | float x =>
    cases b <;> simp only [sameBy, Bool.false_eq_true] at h
    rw [canonicalChars, canonicalChars, float_append_iff h]
    simp [alike, sameBy, h]
  | @list as each ih =>
    cases hb <;> simp only [sameBy, Bool.false_eq_true] at h
    rename_i bs each'
    have hitems := forall₂_imp_mem (sameItemsBy_iff.1 h) fun x hx y hy hxy r s =>
      ih x hx (each' y hy) hxy r s
    rw [alike, sameBy_list_iff, canonicalChars, canonicalChars, canonicalItems_eq,
      canonicalItems_eq]
    simp only [List.cons_append, List.append_assoc, List.cons.injEq, true_and,
      commaSeparated_append_iff hitems, List.append_cancel_left_eq, alike]
  | @object as names each ih =>
    cases hb <;> simp only [sameBy, Bool.false_eq_true] at h
    rename_i bs names' each'
    simp only [Bool.and_eq_true, beq_iff_eq, sameFieldsBy_iff] at h
    obtain ⟨hlen, hfields⟩ := h
    have haligned := sortFields_aligned hlen names names'
      (R := fun v w => ∀ r s, v.canonicalChars ++ r = w.canonicalChars ++ s ↔
        v.alike w = true ∧ r = s) fun f hf => by
      obtain ⟨w, hlookup, hsame⟩ := hfields f hf
      have hmem := (Table.lookup_eq_some_iff names' f.1 w).1 hlookup
      exact ⟨w, hlookup, ih f hf (each' _ hmem) hsame⟩
    have htexts := haligned.imp fun _ _ hfg => fieldChars_append_iff hfg.1 hfg.2
    rw [alike, sameBy_object_iff names names', canonicalChars_object, canonicalChars_object]
    simp only [List.cons_append, List.append_assoc, List.cons.injEq, true_and,
      commaSeparated_append_iff htexts, List.append_cancel_left_eq, alike]

theorem canonical_eq_iff {a b : Json} (ha : a.Distinct) (hb : b.Distinct) (h : a.same b = true) :
    a.canonical = b.canonical ↔ a.alike b = true := by
  have hiff := canonicalChars_append_iff ha hb h [] []
  rw [List.append_nil, List.append_nil] at hiff
  rw [canonical, canonical, String.ofList_inj, hiff, and_iff_left rfl]

end CacheAside.Json
