import CacheAside.Document.Retrieved
import CacheAside.Document.Store
import CacheAside.Proofs.Document.Unsigned
import CacheAside.Proofs.Key.EqualTuples
import CacheAside.Proofs.Outcome
/-!
Filters of equal tuples. A JSON value of a key is stored with the fields of its objects in the
order in which they were written, though its encoding has them sorted. Equal tuples are refused
for the same reason or have filters over the same fields, but a collection takes the two filters
for one only if the objects in the tuples were written in one order.
-/

set_option autoImplicit false

namespace CacheAside

section Lists

variable {α β γ : Type}

theorem map_eq_map_iff_forall₂ {f : α → γ} {g : β → γ} {as : List α} {bs : List β} :
    as.map f = bs.map g ↔ List.Forall₂ (fun a b => f a = g b) as bs := by
  rw [← List.forall₂_eq_eq_eq, List.forall₂_map_left_iff, List.forall₂_map_right_iff]

theorem exists_forall₂_iff {R : α → β → Prop} {as : List α} :
    (∃ bs, List.Forall₂ R as bs) ↔ ∀ a ∈ as, ∃ b, R a b := by
  constructor
  · rintro ⟨bs, h⟩ a ha
    obtain ⟨b, -, hab⟩ := Json.exists_of_forall₂ h a ha
    exact ⟨b, hab⟩
  · intro h
    induction as with
    | nil => exact ⟨[], .nil⟩
    | cons a as ih =>
      rw [List.forall_mem_cons] at h
      obtain ⟨b, hb⟩ := h.1
      obtain ⟨bs, hbs⟩ := ih h.2
      exact ⟨b :: bs, .cons hb hbs⟩

theorem forall_mem_iff_of_forall₂ {P : α → Prop} {Q : β → Prop} {as : List α} {bs : List β}
    (h : List.Forall₂ (fun a b => P a ↔ Q b) as bs) : (∀ a ∈ as, P a) ↔ ∀ b ∈ bs, Q b := by
  induction h with
  | nil => simp
  | cons hab _ ih => rw [List.forall_mem_cons, List.forall_mem_cons, hab, ih]

theorem forall₂_of_images {δ : Type} {R : α → γ → Prop} {S : γ → δ → Prop} {T : β → δ → Prop}
    {as : List α} {bs : List β} {xs : List γ} {ys : List δ} (hx : List.Forall₂ R as xs)
    (hxy : List.Forall₂ S xs ys) (hy : List.Forall₂ T bs ys) :
    List.Forall₂ (fun a b => ∃ x y, R a x ∧ T b y ∧ S x y) as bs := by
  induction hxy generalizing as bs with
  | nil =>
    cases hx
    cases hy
    exact .nil
  | cons hxy _ ih =>
    cases hx with
    | cons hx hxs =>
      cases hy with
      | cons hy hys => exact .cons ⟨_, _, hx, hy, hxy⟩ (ih hxs hys)

end Lists

/-! ### JSON values as they are stored -/

namespace Json

theorem storedItems_eq_ok_iff {items : List Json} {xs : List DocValue} :
    storedItems items = .ok xs ↔ List.Forall₂ (fun v x => v.stored = .ok x) items xs := by
  have h : storedItems items = items.mapM stored := by
    induction items with
    | nil => rfl
    | cons v rest ih => rw [storedItems, ih, List.mapM_cons]
  rw [h, mapM_eq_ok_iff]

theorem storedFields_eq_ok_iff {fields : List (String × Json)} {xs : Document} :
    storedFields fields = .ok xs ↔
      List.Forall₂ (fun f x => f.1 = x.1 ∧ f.2.stored = .ok x.2) fields xs := by
  have h : storedFields fields = fields.mapM fun f => (f.1, ·) <$> f.2.stored := by
    induction fields with
    | nil => rfl
    | cons f rest ih =>
      rw [storedFields, ih, List.mapM_cons]
      cases f.2.stored <;> rfl
  have hpair : ∀ (f : String × Json) (x : String × DocValue),
      (f.1, ·) <$> f.2.stored = .ok x ↔ f.1 = x.1 ∧ f.2.stored = .ok x.2 := by
    intro f x
    cases hf : f.2.stored <;> simp [Functor.map, Except.map, Prod.ext_iff]
  rw [h, mapM_eq_ok_iff]
  simp only [hpair]

/-- Some document can hold the value. -/
def Storable (v : Json) : Prop :=
  ∃ x, v.stored = .ok x

theorem storable_list_iff {items : List Json} :
    (Json.list items).Storable ↔ ∀ v ∈ items, v.Storable := by
  have h : (Json.list items).Storable ↔ ∃ xs, storedItems items = .ok xs := by
    rw [Storable, stored]
    cases storedItems items <;> simp [Functor.map, Except.map]
  simp only [h, storedItems_eq_ok_iff]
  exact exists_forall₂_iff

theorem storable_object_iff {fields : List (String × Json)} :
    (Json.object fields).Storable ↔ ∀ f ∈ fields, f.2.Storable := by
  have h : (Json.object fields).Storable ↔ ∃ xs, storedFields fields = .ok xs := by
    rw [Storable, stored]
    cases storedFields fields <;> simp [Functor.map, Except.map]
  simp only [h, storedFields_eq_ok_iff, exists_forall₂_iff]
  refine forall₂_congr fun f _ => ⟨?_, ?_⟩
  · rintro ⟨x, -, hx⟩
    exact ⟨x.2, hx⟩
  · rintro ⟨x, hx⟩
    exact ⟨(f.1, x), rfl, hx⟩

mutual

theorem stored_eq_error : ∀ {v : Json} {e : DocumentError}, v.stored = .error e → e = .unwritable
  | .int n, e, h => by
    rw [stored] at h
    split at h <;> cases h
    rfl
  | .list items, e, h => storedItems_eq_error (map_eq_error_iff.1 h)
  | .object fields, e, h => storedFields_eq_error (map_eq_error_iff.1 h)
  | .null, _, h | .bool _, _, h | .float _, _, h | .text _, _, h => nomatch h

theorem storedItems_eq_error :
    ∀ {items : List Json} {e : DocumentError}, storedItems items = .error e → e = .unwritable
  | [], _, h => nomatch h
  | v :: rest, e, h => by
    rcases bind_eq_error_iff.1 h with h | ⟨x, -, h⟩
    · exact stored_eq_error h
    · rcases bind_eq_error_iff.1 h with h | ⟨xs, -, h⟩
      · exact storedItems_eq_error h
      · cases h

theorem storedFields_eq_error : ∀ {fields : List (String × Json)} {e : DocumentError},
    storedFields fields = .error e → e = .unwritable
  | [], _, h => nomatch h
  | (n, v) :: rest, e, h => by
    rcases bind_eq_error_iff.1 h with h | ⟨x, -, h⟩
    · exact stored_eq_error h
    · rcases bind_eq_error_iff.1 h with h | ⟨xs, -, h⟩
      · exact storedFields_eq_error h
      · cases h

end

theorem stored_eq_error_iff (v : Json) (e : DocumentError) :
    v.stored = .error e ↔ e = .unwritable ∧ ¬ v.Storable := by
  constructor
  · intro h
    refine ⟨stored_eq_error h, fun ⟨x, hx⟩ => ?_⟩
    rw [h] at hx
    cases hx
  · rintro ⟨rfl, h⟩
    cases hv : v.stored with
    | ok x => exact absurd ⟨x, hv⟩ h
    | error e => rw [stored_eq_error hv]

theorem storable_iff_of_same {a b : Json} (ha : a.Distinct) (hb : b.Distinct)
    (h : a.same b = true) : a.Storable ↔ b.Storable := by
  rw [same_eq_sameBy] at h
  induction ha generalizing b with
  | null | bool | int | float | text =>
    cases b <;> simp only [sameBy, Bool.false_eq_true, beq_iff_eq] at h
    all_goals simp_all [Storable, stored]
  | @list as each ih =>
    cases hb <;> simp only [sameBy, Bool.false_eq_true] at h
    rename_i bs each'
    rw [storable_list_iff, storable_list_iff]
    refine forall_mem_iff_of_forall₂ ?_
    exact forall₂_imp_mem (sameItemsBy_iff.1 h) fun v hv w hw hvw => ih v hv (each' w hw) hvw
  | @object as names each ih =>
    cases hb <;> simp only [sameBy, Bool.false_eq_true] at h
    rename_i bs names' each'
    simp only [Bool.and_eq_true, beq_iff_eq, sameFieldsBy_iff] at h
    obtain ⟨hlen, hfields⟩ := h
    have haligned := sortFields_aligned hlen names names' (R := fun v w => v.Storable ↔ w.Storable)
      fun f hf => by
        obtain ⟨w, hlookup, hsame⟩ := hfields f hf
        have hmem := (Table.lookup_eq_some_iff names' f.1 w).1 hlookup
        exact ⟨w, hlookup, ih f hf (each' _ hmem) hsame⟩
    have hiff := forall_mem_iff_of_forall₂ (haligned.imp fun _ _ hfg => hfg.2)
    simpa only [mem_sortFields, storable_object_iff] using hiff

inductive Unmarked : Json → Prop
  | null : Unmarked .null
  | bool (b : Bool) : Unmarked (.bool b)
  | int (n : Int) : Unmarked (.int n)
  | float (x : Binary64) : Unmarked (.float x)
  | text (s : String) : Unmarked (.text s)
  | list {items : List Json} (each : ∀ v ∈ items, Unmarked v) : Unmarked (.list items)
  | object {fields : List (String × Json)} (names : ∀ f ∈ fields, f.1 ∉ Mark.all)
    (each : ∀ f ∈ fields, Unmarked f.2) : Unmarked (.object fields)

theorem names_of_stored {fields : List (String × Json)} {xs : Document}
    (h : List.Forall₂ (fun f x => f.1 = x.1 ∧ f.2.stored = .ok x.2) fields xs) :
    xs.map Prod.fst = fields.map Prod.fst :=
  (map_eq_map_iff_forall₂.2 (h.imp fun _ _ hfx => hfx.1)).symm

theorem ofFields_of_names {fields : Document} (h : ∀ f ∈ fields, f.1 ∉ Mark.all) :
    DocValue.ofFields fields = .document fields := by
  unfold DocValue.ofFields
  split
  · rw [DocValue.ofStored?_unmarked (h _ (.head _))]
    rfl
  · exact absurd (by simp [Mark.all]) (h _ (.head _))
  · exact absurd (by simp [Mark.all]) (h _ (.head _))
  · rfl

theorem ofFields_of_stored {fields : List (String × Json)} {xs : Document}
    (names : ∀ f ∈ fields, f.1 ∉ Mark.all)
    (h : List.Forall₂ (fun f x => f.1 = x.1 ∧ f.2.stored = .ok x.2) fields xs) :
    DocValue.ofFields xs = .document xs := by
  refine ofFields_of_names fun x hx => ?_
  have hmem : x.1 ∈ fields.map Prod.fst := names_of_stored h ▸ List.mem_map_of_mem hx
  obtain ⟨f, hf, hname⟩ := List.mem_map.1 hmem
  exact hname ▸ names f hf

theorem unsignedItems_eq_map (items : List Json) : unsignedItems items = items.map unsigned := by
  induction items with
  | nil => rfl
  | cons v rest ih => rw [unsignedItems, ih, List.map_cons]

theorem unsignedFields_eq_map (fields : List (String × Json)) :
    unsignedFields fields = fields.map fun f => (f.1, f.2.unsigned) := by
  induction fields with
  | nil => rfl
  | cons f rest ih => rw [unsignedFields, ih, List.map_cons]

/-- Unmarked values that are equal in some order of fields, and equal once stored, have one order
of fields. -/
theorem unsigned_eq_of_stored {a b : Json} (ha : a.Unmarked) (hb : b.Unmarked) (hd : b.Distinct)
    (h : a.same b = true) {x y : DocValue} (hx : a.stored = .ok x) (hy : b.stored = .ok y)
    (hxy : x.unsigned = y.unsigned) : a.unsigned = b.unsigned := by
  rw [same_eq_sameBy] at h
  induction ha generalizing b x y with
  | null | bool | int | text =>
    cases b <;> simp only [sameBy, Bool.false_eq_true, beq_iff_eq] at h
    all_goals simp_all
  | float =>
    cases b <;> simp only [sameBy, Bool.false_eq_true] at h
    exact congrArg Json.float (Binary64.unsignedZero_eq_of_same h)
  | @list as each ih =>
    cases hb <;> simp only [sameBy, Bool.false_eq_true] at h
    rename_i bs each'
    cases hd with | list distinct
    obtain ⟨xs, hxs, rfl⟩ := map_eq_ok hx
    obtain ⟨ys, hys, rfl⟩ := map_eq_ok hy
    have himages : List.Forall₂ (fun x y => x.unsigned = y.unsigned) xs ys := by
      rw [← map_eq_map_iff_forall₂, ← DocValue.unsignedItems_eq_map,
        ← DocValue.unsignedItems_eq_map]
      exact DocValue.array.inj hxy
    have hitems := forall₂_of_images (storedItems_eq_ok_iff.1 hxs) himages
      (storedItems_eq_ok_iff.1 hys)
    have hsame := (sameItemsBy_iff.1 h).mp (fun _ _ => And.intro) hitems
    rw [unsigned, unsigned, unsignedItems_eq_map, unsignedItems_eq_map, list.injEq,
      map_eq_map_iff_forall₂]
    refine forall₂_imp_mem hsame fun v hv w hw ⟨hvw, x, y, hx, hy, hxy⟩ => ?_
    exact ih v hv (each' w hw) (distinct w hw) hvw hx hy hxy
  | @object as names each ih =>
    cases hb <;> simp only [sameBy, Bool.false_eq_true] at h
    rename_i bs names' each'
    cases hd with | object nodup distinct
    simp only [Bool.and_eq_true, sameFieldsBy_iff] at h
    obtain ⟨xs, hxs, rfl⟩ := map_eq_ok hx
    obtain ⟨ys, hys, rfl⟩ := map_eq_ok hy
    have hxs := storedFields_eq_ok_iff.1 hxs
    have hys := storedFields_eq_ok_iff.1 hys
    rw [ofFields_of_stored names hxs, ofFields_of_stored names' hys] at hxy
    have himages : List.Forall₂ (fun x y => (x.1, x.2.unsigned) = (y.1, y.2.unsigned)) xs ys := by
      rw [← map_eq_map_iff_forall₂, ← DocValue.unsignedFields_eq_map,
        ← DocValue.unsignedFields_eq_map]
      exact DocValue.document.inj hxy
    have hfields := forall₂_of_images hxs himages hys
    rw [unsigned, unsigned, unsignedFields_eq_map, unsignedFields_eq_map, object.injEq,
      map_eq_map_iff_forall₂]
    refine forall₂_imp_mem hfields fun f hf g hg ⟨x, y, hx, hy, hxy⟩ => ?_
    rw [Prod.mk.injEq] at hxy ⊢
    have hname : f.1 = g.1 := by rw [hx.1, hxy.1, hy.1]
    obtain ⟨w, hlookup, hsame⟩ := h.2 f hf
    rw [hname, (Table.lookup_eq_some_iff nodup g.1 g.2).2 hg] at hlookup
    cases hlookup
    exact ⟨hname, ih f hf (each' g hg) (distinct g hg) hsame hx.2 hy.2 hxy.2⟩

end Json

/-! ### Key values as they are stored -/

namespace KeyPart

/-- Two JSON values have their fields in one order and differ at most in the signs of zeros. -/
def InOrder : KeyPart → KeyPart → Prop
  | .json a, .json b => a.unsigned = b.unsigned
  | _, _ => True

def Unmarked : KeyPart → Prop
  | .json v => v.Unmarked
  | _ => True

variable {a b : KeyPart}

theorem stored_eq_error_iff_of_same (ha : a.Distinct) (hb : b.Distinct) (h : a.same b = true)
    (e : DocumentError) : a.stored = .error e ↔ b.stored = .error e := by
  cases a <;> cases b <;> simp only [same, Bool.false_eq_true] at h
  case json.json v w =>
    rw [stored, stored, Json.stored_eq_error_iff, Json.stored_eq_error_iff,
      Json.storable_iff_of_same ha hb h]
  case float.float x y => simp [stored]
  all_goals
    rw [beq_iff_eq] at h
    rw [h]

theorem unsigned_stored_of_inOrder (h : a.same b = true) (ho : InOrder a b) :
    a.stored.map DocValue.unsigned = b.stored.map DocValue.unsigned := by
  cases a <;> cases b <;> simp only [same, Bool.false_eq_true] at h
  case json.json v w =>
    rw [stored, stored, ← Json.stored_unsigned v, ho, Json.stored_unsigned w]
  case float.float x y =>
    exact congrArg (Except.ok ∘ DocValue.double) (Binary64.unsignedZero_eq_of_same h)
  all_goals
    rw [beq_iff_eq] at h
    rw [h]

theorem inOrder_of_stored (ha : a.Unmarked) (hb : b.Unmarked) (hd : b.Distinct)
    (h : a.same b = true) {x y : DocValue} (hx : a.stored = .ok x) (hy : b.stored = .ok y)
    (hxy : x.unsigned = y.unsigned) : InOrder a b := by
  cases a <;> cases b <;> try trivial
  exact Json.unsigned_eq_of_stored ha hb hd h hx hy hxy

end KeyPart

/-! ### Filters -/

namespace Document

def putAll (d fields : Document) : Document :=
  fields.foldl (fun d f => d.put f.1 f.2) d

theorem names_put {c d : Document} (h : c.map Prod.fst = d.map Prod.fst) (name : String)
    (v w : DocValue) : (c.put name v).map Prod.fst = (d.put name w).map Prod.fst := by
  unfold put
  induction c generalizing d with
  | nil =>
    cases d with
    | nil => rfl
    | cons g d => cases h
  | cons f c ih =>
    cases d with
    | nil => cases h
    | cons g d =>
      rw [List.map_cons, List.map_cons, List.cons.injEq] at h
      by_cases hn : g.1 = name
      · simp [Table.put, h, hn]
      · simp [Table.put, h, hn, ih h.2]

theorem names_putAll {c d as bs : Document} (h : c.map Prod.fst = d.map Prod.fst)
    (hs : as.map Prod.fst = bs.map Prod.fst) :
    (c.putAll as).map Prod.fst = (d.putAll bs).map Prod.fst := by
  induction as generalizing bs c d with
  | nil =>
    cases bs with
    | nil => exact h
    | cons g bs => cases hs
  | cons f as ih =>
    cases bs with
    | nil => cases hs
    | cons g bs =>
      rw [List.map_cons, List.map_cons, List.cons.injEq] at hs
      refine ih (c := c.put f.1 f.2) (d := d.put g.1 g.2) ?_ hs.2
      rw [← hs.1]
      exact names_put h f.1 f.2 g.2

theorem unsignedFields_put (d : Document) (name : String) (v : DocValue) :
    DocValue.unsignedFields (d.put name v) =
      put (DocValue.unsignedFields d) name v.unsigned := by
  unfold put
  induction d with
  | nil => rfl
  | cons f d ih =>
    obtain ⟨n, w⟩ := f
    by_cases hn : n = name
    · simp [Table.put, DocValue.unsignedFields, hn]
    · simp [Table.put, DocValue.unsignedFields, hn, ih]

theorem unsignedFields_putAll (d fields : Document) :
    DocValue.unsignedFields (d.putAll fields) =
      putAll (DocValue.unsignedFields d) (DocValue.unsignedFields fields) := by
  induction fields generalizing d with
  | nil => rfl
  | cons f rest ih => exact (ih _).trans (congrArg (putAll · _) (unsignedFields_put d f.1 f.2))

theorem unsignedFields_zip (names : List String) (vs : List DocValue) :
    DocValue.unsignedFields (names.zip vs) = names.zip (vs.map DocValue.unsigned) := by
  rw [DocValue.unsignedFields_eq_map, List.zip_map_right]
  rfl

theorem putAll_of_nodup {d fields : Document} (h : ((d ++ fields).map Prod.fst).Nodup) :
    d.putAll fields = d ++ fields := by
  induction fields generalizing d with
  | nil => exact (List.append_nil d).symm
  | cons f rest ih =>
    rw [List.append_cons] at h ⊢
    have hnodup : (d.map Prod.fst ++ [f.1]).Nodup := by
      rw [List.map_append, List.map_append] at h
      exact (List.nodup_append.1 h).1
    have hput : d.put f.1 f.2 = d ++ [f] := by
      refine Table.put_of_lookup_eq_none (Option.eq_none_iff_forall_ne_some.2 fun v hv => ?_)
      rw [Table.lookup_eq_some_iff (List.nodup_append.1 hnodup).1] at hv
      exact (List.nodup_append.1 hnodup).2.2 _ (List.mem_map_of_mem hv) _ (.head _) rfl
    rw [← ih h, ← hput]
    rfl

/-- A document meets a filter whatever signs the zeros in the filter have. -/
theorem meets_congr {f g : Document} (h : DocValue.unsignedFields f = DocValue.unsignedFields g)
    (d : Document) : d.meets f = d.meets g := by
  have hunsigned : ∀ f : Document, d.meets f = d.meets (DocValue.unsignedFields f) := by
    intro f
    rw [DocValue.unsignedFields_eq_map, meets, meets, List.all_map]
    simp only [Function.comp_def, DocValue.alike_unsigned]
  rw [hunsigned f, h, hunsigned g]

end Document

namespace DocumentStore

/-- A filter is refused for the first key value that cannot be stored, else it has them all. -/
theorem filterOf_eq {names : List String} {parts : List KeyPart}
    (hlen : parts.length = names.length) (filter : Document) :
    filterOf names parts filter =
      (fun vs => filter.putAll (names.zip vs)) <$> parts.mapM KeyPart.stored := by
  induction names generalizing parts filter with
  | nil =>
    obtain rfl := List.length_eq_zero_iff.1 hlen
    rfl
  | cons name names ih =>
    cases parts with
    | nil => cases hlen
    | cons p parts =>
      rw [filterOf, List.mapM_cons]
      cases p.stored with
      | error e => rfl
      | ok v =>
        refine (ih (Nat.succ.inj hlen) (filter.put name v)).trans ?_
        cases parts.mapM KeyPart.stored <;> rfl

variable {C : Type} {as bs : List KeyPart}

theorem keyFilter_eq_ok (E : Type) [Entity E] {s : DocumentStore C} {filter : Document}
    (h : s.keyFilter E as = .ok filter) :
    as.length = s.keyFields.length ∧ ∃ vs, List.Forall₂ (fun p v => p.stored = .ok v) as vs ∧
      filter = Document.putAll [] (s.keyFields.zip vs) := by
  rw [keyFilter] at h
  split at h
  · cases h
  · rename_i hlen
    rw [not_not] at hlen
    rw [filterOf_eq hlen] at h
    obtain ⟨vs, hvs, hfilter⟩ := map_eq_ok h
    exact ⟨hlen, vs, mapM_eq_ok_iff.1 hvs, hfilter.symm⟩

theorem putAll_zip {names : List String} {vs : List DocValue} (nodup : names.Nodup)
    (h : names.length = vs.length) : Document.putAll [] (names.zip vs) = names.zip vs := by
  refine Document.putAll_of_nodup ?_
  rwa [List.nil_append, List.map_fst_zip (Nat.le_of_eq h)]

/-- Equal tuples are refused for the same reason, or have filters with the same fields. If also
their JSON values have their fields in one order, the filters find the same documents. Where there
are no marks, only then do the filters agree but for the signs of zeros. -/
theorem keyFilter_of_sameTuple (E : Type) [Entity E] (s : DocumentStore C)
    (h : KeyPart.sameTuple as bs = true) (ha : ∀ p ∈ as, p.Distinct) (hb : ∀ p ∈ bs, p.Distinct) :
    (∀ err, s.keyFilter E as = .error err ↔ s.keyFilter E bs = .error err) ∧
      ∀ f g, s.keyFilter E as = .ok f → s.keyFilter E bs = .ok g →
        f.map Prod.fst = g.map Prod.fst ∧
          (List.Forall₂ KeyPart.InOrder as bs →
            DocValue.unsignedFields f = DocValue.unsignedFields g ∧
              ∀ d : Document, d.meets f = d.meets g) ∧
          (s.keyFields.Nodup → (∀ p ∈ as, p.Unmarked) → (∀ p ∈ bs, p.Unmarked) →
            DocValue.unsignedFields f = DocValue.unsignedFields g →
              List.Forall₂ KeyPart.InOrder as bs) := by
  have hsame := KeyPart.sameTuple_iff.1 h
  have hlength : as.length = bs.length := hsame.length_eq
  refine ⟨fun err => ?_, fun f g hf hg => ?_⟩
  · rw [keyFilter, keyFilter, ← hlength]
    split
    · rfl
    · rename_i hlen
      rw [not_not] at hlen
      have hiff := mapM_eq_error_iff (Json.forall₂_imp_mem hsame fun p hp q hq hpq =>
        KeyPart.stored_eq_error_iff_of_same (ha p hp) (hb q hq) hpq) err
      rw [filterOf_eq hlen, filterOf_eq (hlength ▸ hlen), map_eq_error_iff, map_eq_error_iff, hiff]
  · obtain ⟨hlen, vs, hvs, rfl⟩ := keyFilter_eq_ok E hf
    obtain ⟨-, ws, hws, rfl⟩ := keyFilter_eq_ok E hg
    have hv : s.keyFields.length = vs.length := by rw [← hlen, hvs.length_eq]
    have hw : s.keyFields.length = ws.length := by rw [← hlen, hlength, hws.length_eq]
    refine ⟨Document.names_putAll rfl ?_, fun ho => ?_, fun nodup hua hub hfg => ?_⟩
    · rw [List.map_fst_zip (Nat.le_of_eq hv), List.map_fst_zip (Nat.le_of_eq hw)]
    · have himages : vs.map DocValue.unsigned = ws.map DocValue.unsigned := by
        rw [map_eq_map_iff_forall₂]
        have hboth := hsame.mp (fun _ _ => And.intro) ho
        refine (forall₂_of_images hvs.flip hboth hws.flip).imp ?_
        rintro v w ⟨p, q, hp, hq, hpq, ho⟩
        have hstored := KeyPart.unsigned_stored_of_inOrder hpq ho
        rw [hp, hq] at hstored
        exact Except.ok.inj hstored
      have hfg : DocValue.unsignedFields (Document.putAll [] (s.keyFields.zip vs)) =
          DocValue.unsignedFields (Document.putAll [] (s.keyFields.zip ws)) := by
        rw [Document.unsignedFields_putAll, Document.unsignedFields_putAll,
          Document.unsignedFields_zip, Document.unsignedFields_zip, himages]
      exact ⟨hfg, Document.meets_congr hfg⟩
    · rw [putAll_zip nodup hv, putAll_zip nodup hw, Document.unsignedFields_zip,
        Document.unsignedFields_zip] at hfg
      have himages := congrArg (List.map Prod.snd) hfg
      rw [List.map_snd_zip (by simp [hv]), List.map_snd_zip (by simp [hw]),
        map_eq_map_iff_forall₂] at himages
      refine Json.forall₂_imp_mem (hsame.mp (fun _ _ => And.intro)
        (forall₂_of_images hvs himages hws)) fun p hp q hq ⟨hpq, v, w, hpv, hqw, hvw⟩ => ?_
      exact KeyPart.inOrder_of_stored (hua p hp) (hub q hq) (hb q hq) hpq hpv hqw hvw

namespace Swapped

def store : DocumentStore Collection :=
  ⟨["body"], .empty⟩

def fields (swapped : Bool) (x : Binary64) : List (String × Json) :=
  if swapped then [("b", .text "y"), ("a", .float x)] else [("a", .float x), ("b", .text "y")]

def body (swapped : Bool) (x : Binary64) : Json :=
  .object (fields swapped x)

def zero : Binary64 :=
  ⟨0⟩

def minusZero : Binary64 :=
  ⟨0x8000000000000000⟩

def filter (swapped : Bool) (x : Binary64) : Document :=
  [("body", .document (if swapped then [("b", .text "y"), ("a", .double x)]
    else [("a", .double x), ("b", .text "y")]))]

theorem mem_fields {swapped : Bool} {x : Binary64} {f : String × Json}
    (h : f ∈ fields swapped x) : f = ("a", .float x) ∨ f = ("b", .text "y") := by
  cases swapped
  · simpa [fields] using h
  · simpa [fields, or_comm] using h

theorem distinct_body (swapped : Bool) (x : Binary64) :
    ∀ p ∈ [KeyPart.json (body swapped x)], p.Distinct := by
  refine List.forall_mem_singleton.2 (.object ?_ fun f hf => ?_)
  · cases swapped <;> simp [fields]
  · rcases mem_fields hf with rfl | rfl
    · exact .float x
    · exact .text "y"

theorem unmarked_body (swapped : Bool) (x : Binary64) :
    ∀ p ∈ [KeyPart.json (body swapped x)], p.Unmarked := by
  refine List.forall_mem_singleton.2 (.object (fun f hf => ?_) fun f hf => ?_)
  · rcases mem_fields hf with rfl | rfl <;> simp [Mark.all, Mark.single]
  · rcases mem_fields hf with rfl | rfl
    · exact .float x
    · exact .text "y"

/-- One key and two filters: what is filed by the one is not found by the other. -/
theorem filters_apart :
    KeyPart.sameTuple [.json (body false zero)] [.json (body true zero)] = true ∧
      Key.derive [.json (body false zero)] = Key.derive [.json (body true zero)] ∧
      store.keyFilter Item [.json (body false zero)] = .ok (filter false zero) ∧
      store.keyFilter Item [.json (body true zero)] = .ok (filter true zero) ∧
      Document.meets (filter false zero) (filter false zero) = true ∧
      Document.meets (filter false zero) (filter true zero) = false :=
  ⟨rfl, rfl, rfl, rfl, rfl, rfl⟩

theorem signs_unseen :
    (∀ d : Document, d.meets (filter false zero) = d.meets (filter false minusZero)) ∧
      DocValue.unsignedFields (filter false zero) ≠ DocValue.unsignedFields (filter true zero) := by
  have same : ∀ (swapped : Bool) (x : Binary64), zero.same x = true →
      KeyPart.sameTuple [.json (body false zero)] [.json (body swapped x)] = true := by
    intro swapped x hx
    cases swapped <;>
      simp [KeyPart.sameTuple, KeyPart.same, body, fields, Json.same, Json.sameFields,
        Table.lookup, hx]
  obtain ⟨-, signs⟩ := keyFilter_of_sameTuple Item store (same false minusZero rfl)
    (distinct_body _ _) (distinct_body _ _)
  obtain ⟨-, order⟩ := keyFilter_of_sameTuple Item store (same true zero rfl)
    (distinct_body _ _) (distinct_body _ _)
  obtain ⟨-, found, -⟩ := signs (filter false zero) (filter false minusZero) rfl rfl
  obtain ⟨-, -, exact⟩ := order (filter false zero) (filter true zero) rfl rfl
  refine ⟨(found (.cons rfl .nil)).2, fun h => ?_⟩
  cases exact (by decide) (unmarked_body _ _) (unmarked_body _ _) h with
  | cons hbody _ =>
    simp [KeyPart.InOrder, body, fields, Json.unsigned, Json.unsignedFields] at hbody

end Swapped

end DocumentStore

end CacheAside
