import CacheAside.Document.Collection
import CacheAside.Document.Stored

set_option autoImplicit false

namespace CacheAside

theorem Binary64.isNaN_unsignedZero (x : Binary64) : x.unsignedZero.isNaN = x.isNaN := by
  unfold unsignedZero
  split
  · rename_i h
    have hm : x.magnitude = 0 := by simpa [isZero] using h
    rw [isNaN, isNaN, hm]
    rfl
  · rfl

theorem Binary64.isZero_unsignedZero (x : Binary64) : x.unsignedZero.isZero = x.isZero := by
  unfold unsignedZero
  split
  · rename_i h
    rw [h]
    rfl
  · rfl

theorem Binary64.unsignedZero_unsignedZero (x : Binary64) :
    x.unsignedZero.unsignedZero = x.unsignedZero := by
  rw [unsignedZero, isZero_unsignedZero]
  split
  · rename_i h
    simp [unsignedZero, h]
  · rfl

theorem Binary64.same_unsignedZero (x y : Binary64) : x.same y.unsignedZero = x.same y := by
  rw [Bool.eq_iff_iff, same_iff, same_iff, isNaN_unsignedZero, isZero_unsignedZero]
  by_cases h : y.isZero = true
  · have hx : x = y.unsignedZero → x.isZero = true := by
      rintro rfl
      rw [isZero_unsignedZero, h]
    have hy : x = y → x.isZero = true := by
      rintro rfl
      exact h
    rw [and_iff_left h, or_iff_right_of_imp hx, or_iff_right_of_imp hy]
  · rw [unsignedZero, if_neg h]

mutual

def Json.unsigned : Json → Json
  | .float x => .float x.unsignedZero
  | .list items => .list (Json.unsignedItems items)
  | .object fields => .object (Json.unsignedFields fields)
  | v => v

def Json.unsignedItems : List Json → List Json
  | [] => []
  | v :: rest => v.unsigned :: Json.unsignedItems rest

def Json.unsignedFields : List (String × Json) → List (String × Json)
  | [] => []
  | (n, v) :: rest => (n, v.unsigned) :: Json.unsignedFields rest

end

namespace DocValue

mutual

/-- The value without the signs of its zeros. -/
def unsigned : DocValue → DocValue
  | .double x => .double x.unsignedZero
  | .document fields => .document (unsignedFields fields)
  | .array items => .array (unsignedItems items)
  | .scopedCode source scope => .scopedCode source (unsignedFields scope)
  | v => v

def unsignedItems : List DocValue → List DocValue
  | [] => []
  | v :: rest => unsigned v :: unsignedItems rest

def unsignedFields : List (String × DocValue) → List (String × DocValue)
  | [] => []
  | (n, v) :: rest => (n, unsigned v) :: unsignedFields rest

end

mutual

theorem alike_unsigned : ∀ (w v : DocValue), v.alike w.unsigned = v.alike w
  | .double y, v => by
    cases v with
    | double x => exact Binary64.same_unsignedZero x y
    | _ => rfl
  | .document bs, v => by
    cases v with
    | document as => rw [unsigned, alike, alike, alikeFields_unsignedFields bs as]
    | _ => rfl
  | .array bs, v => by
    cases v with
    | array as => rw [unsigned, alike, alike, alikeItems_unsignedItems bs as]
    | _ => rfl
  | .scopedCode t bs, v => by
    cases v with
    | scopedCode s as => rw [unsigned, alike, alike, alikeFields_unsignedFields bs as]
    | _ => rfl
  | .text _, _ | .binary .., _ | .objectId _, _ | .bool _, _ | .date _, _ | .null, _
  | .int32 _, _ | .int64 _, _ | .decimal _, _ | .timestamp .., _ | .regex .., _ | .symbol _, _
  | .code _, _ | .pointer .., _ | .undefined, _ | .minKey, _ | .maxKey, _ => rfl

theorem alikeItems_unsignedItems :
    ∀ ws vs : List DocValue, alikeItems vs (unsignedItems ws) = alikeItems vs ws
  | [], [] | [], _ :: _ | _ :: _, [] => rfl
  | w :: ws, v :: vs => by
    rw [unsignedItems, alikeItems, alikeItems, alike_unsigned w v, alikeItems_unsignedItems ws vs]

theorem alikeFields_unsignedFields : ∀ ws vs : List (String × DocValue),
    alikeFields vs (unsignedFields ws) = alikeFields vs ws
  | [], [] | [], _ :: _ | _ :: _, [] => rfl
  | (n, w) :: ws, (m, v) :: vs => by
    rw [unsignedFields, alikeFields, alikeFields, alike_unsigned w v,
      alikeFields_unsignedFields ws vs]

end

mutual

theorem unsigned_unsigned : ∀ v : DocValue, v.unsigned.unsigned = v.unsigned
  | .double x => congrArg DocValue.double x.unsignedZero_unsignedZero
  | .document fields => congrArg DocValue.document (unsignedFields_unsignedFields fields)
  | .array items => congrArg DocValue.array (unsignedItems_unsignedItems items)
  | .scopedCode source scope =>
    congrArg (DocValue.scopedCode source) (unsignedFields_unsignedFields scope)
  | .text _ | .binary .. | .objectId _ | .bool _ | .date _ | .null | .int32 _ | .int64 _
  | .decimal _ | .timestamp .. | .regex .. | .symbol _ | .code _ | .pointer .. | .undefined
  | .minKey | .maxKey => rfl

theorem unsignedItems_unsignedItems :
    ∀ vs : List DocValue, unsignedItems (unsignedItems vs) = unsignedItems vs
  | [] => rfl
  | v :: vs => by
    rw [unsignedItems, unsignedItems, unsigned_unsigned v, unsignedItems_unsignedItems vs]

theorem unsignedFields_unsignedFields : ∀ vs : List (String × DocValue),
    unsignedFields (unsignedFields vs) = unsignedFields vs
  | [] => rfl
  | (n, v) :: vs => by
    rw [unsignedFields, unsignedFields, unsigned_unsigned v, unsignedFields_unsignedFields vs]

end

theorem unsignedItems_eq_map (items : List DocValue) :
    unsignedItems items = items.map unsigned := by
  induction items with
  | nil => rfl
  | cons v rest ih => rw [unsignedItems, ih, List.map_cons]

theorem unsignedFields_eq_map (d : Document) :
    unsignedFields d = d.map fun f => (f.1, f.2.unsigned) := by
  induction d with
  | nil => rfl
  | cons f rest ih => rw [unsignedFields, ih, List.map_cons]

theorem get?_unsignedFields (d : Document) (name : String) :
    Document.get? (unsignedFields d) name = (d.get? name).map unsigned := by
  induction d with
  | nil => rfl
  | cons f rest ih =>
    obtain ⟨n, v⟩ := f
    by_cases h : n = name
    · simp [unsignedFields, Document.get?, Table.lookup, h]
    · simpa [unsignedFields, Document.get?, Table.lookup, h] using ih

section Leaves

variable {v : DocValue}

theorem unsigned_eq_text_iff {s : String} : v.unsigned = .text s ↔ v = .text s := by
  cases v <;> simp [unsigned]

theorem unsigned_eq_int32_iff {n : Int32} : v.unsigned = .int32 n ↔ v = .int32 n := by
  cases v <;> simp [unsigned]

theorem unsigned_eq_int64_iff {n : Int64} : v.unsigned = .int64 n ↔ v = .int64 n := by
  cases v <;> simp [unsigned]

theorem unsigned_eq_objectId_iff {i : ObjectId} : v.unsigned = .objectId i ↔ v = .objectId i := by
  cases v <;> simp [unsigned]

theorem exists_of_unsigned_eq_document {d : Document} (h : v.unsigned = .document d) :
    ∃ d', v = .document d' := by
  cases v <;> simp only [unsigned, reduceCtorEq] at h
  exact ⟨_, rfl⟩

end Leaves

theorem ofStoredParts?_unsignedFields (mark : String) (body : Document) :
    ofStoredParts? mark (unsignedFields body) = ofStoredParts? mark body := by
  unfold ofStoredParts?
  simp only [get?_unsignedFields]
  split <;> try rfl
  all_goals
    split <;> simp_all [unsigned_eq_text_iff, unsigned_eq_int32_iff, unsigned_eq_int64_iff,
      unsigned_eq_objectId_iff]

/-- What is behind a mark is told without looking at doubles. -/
theorem ofStored?_unsigned (mark : String) (v : DocValue) :
    ofStored? mark v.unsigned = ofStored? mark v := by
  cases v <;> try rfl
  exact ofStoredParts?_unsignedFields mark _

inductive Scoped (source : String) (scope : Document) : Document → Prop
  | codeFirst : Scoped source scope [("$code", .text source), ("$scope", .document scope)]
  | scopeFirst : Scoped source scope [("$scope", .document scope), ("$code", .text source)]

theorem Scoped.ofFields {source : String} {scope fields : Document}
    (h : Scoped source scope fields) : ofFields fields = .scopedCode source scope := by
  cases h <;> rfl

theorem ofFields_of_not_scoped {fields : Document} (hlen : fields.length ≠ 1)
    (h : ∀ source scope, ¬ Scoped source scope fields) : ofFields fields = .document fields := by
  unfold DocValue.ofFields
  split
  · exact absurd rfl hlen
  · exact absurd .codeFirst (h _ _)
  · exact absurd .scopeFirst (h _ _)
  · rfl

theorem Scoped.of_unsignedFields {source : String} {scope fields : Document}
    (h : Scoped source scope (unsignedFields fields)) : ∃ scope', Scoped source scope' fields := by
  generalize hg : unsignedFields fields = gs at h
  match fields with
  | [] | [_] | _ :: _ :: _ :: _ => cases h <;> simp [unsignedFields] at hg
  | [(m, v), (n, w)] =>
    cases h <;> simp only [unsignedFields, List.cons.injEq, Prod.mk.injEq, and_true] at hg
    · obtain ⟨⟨rfl, hv⟩, rfl, hw⟩ := hg
      obtain ⟨scope', rfl⟩ := exists_of_unsigned_eq_document hw
      rw [unsigned_eq_text_iff.1 hv]
      exact ⟨scope', .codeFirst⟩
    · obtain ⟨⟨rfl, hv⟩, rfl, hw⟩ := hg
      obtain ⟨scope', rfl⟩ := exists_of_unsigned_eq_document hv
      rw [unsigned_eq_text_iff.1 hw]
      exact ⟨scope', .scopeFirst⟩

theorem unsigned_ofFields_unsignedFields (fields : Document) :
    (ofFields (unsignedFields fields)).unsigned = (ofFields fields).unsigned := by
  have plain : (DocValue.document (unsignedFields fields)).unsigned =
      (DocValue.document fields).unsigned := unsigned_unsigned (.document fields)
  by_cases hlen : fields.length = 1
  · obtain ⟨⟨mark, v⟩, rfl⟩ := List.length_eq_one_iff.1 hlen
    have h : ofFields (unsignedFields [(mark, v)]) =
        (ofStored? mark v).getD (.document (unsignedFields [(mark, v)])) := by
      rw [← ofStored?_unsigned]
      rfl
    rw [h, ofFields]
    cases ofStored? mark v with
    | none => exact plain
    | some x => rfl
  · by_cases h : ∃ source scope, Scoped source scope fields
    · obtain ⟨source, scope, h⟩ := h
      have h' : Scoped source (unsignedFields scope) (unsignedFields fields) := by
        cases h
        · exact .codeFirst
        · exact .scopeFirst
      rw [h.ofFields, h'.ofFields]
      exact unsigned_unsigned (.scopedCode source scope)
    · rw [ofFields_of_not_scoped hlen fun source scope hs => h ⟨source, scope, hs⟩,
        ofFields_of_not_scoped, plain]
      · rwa [unsignedFields_eq_map, List.length_map]
      · intro source scope hs
        obtain ⟨scope', hs⟩ := hs.of_unsignedFields
        exact h ⟨source, scope', hs⟩

theorem unsigned_ofFields_congr {as bs : Document} (h : unsignedFields as = unsignedFields bs) :
    (ofFields as).unsigned = (ofFields bs).unsigned := by
  rw [← unsigned_ofFields_unsignedFields as, h, unsigned_ofFields_unsignedFields bs]

end DocValue

theorem Except.map_eq_cases {ε α β : Type} {f : α → β} {r s : Except ε α}
    (h : r.map f = s.map f) :
    (∃ x y, r = .ok x ∧ s = .ok y ∧ f x = f y) ∨ ∃ e, r = .error e ∧ s = .error e := by
  cases r <;> cases s <;> simp_all [Except.map]

namespace Json

mutual

/-- Values that differ only in the signs of zeros are stored as such. -/
theorem stored_unsigned :
    ∀ v : Json, v.unsigned.stored.map DocValue.unsigned = v.stored.map DocValue.unsigned
  | .float x => congrArg (Except.ok ∘ DocValue.double) x.unsignedZero_unsignedZero
  | .list items => by
    have ih := storedItems_unsignedItems items
    rw [unsigned, stored, stored]
    rcases Except.map_eq_cases ih with ⟨xs, ys, hx, hy, h⟩ | ⟨e, hx, hy⟩
    · rw [hx, hy]
      exact congrArg (Except.ok ∘ DocValue.array) h
    · rw [hx, hy]
  | .object fields => by
    have ih := storedFields_unsignedFields fields
    rw [unsigned, stored, stored]
    rcases Except.map_eq_cases ih with ⟨xs, ys, hx, hy, h⟩ | ⟨e, hx, hy⟩
    · rw [hx, hy]
      exact congrArg Except.ok (DocValue.unsigned_ofFields_congr h)
    · rw [hx, hy]
  | .null | .bool _ | .int _ | .text _ => rfl

theorem storedItems_unsignedItems : ∀ items : List Json,
    (storedItems (unsignedItems items)).map DocValue.unsignedItems =
      (storedItems items).map DocValue.unsignedItems
  | [] => rfl
  | v :: rest => by
    rw [unsignedItems, storedItems, storedItems]
    rcases Except.map_eq_cases (stored_unsigned v) with ⟨x, y, hx, hy, h⟩ | ⟨e, hx, hy⟩
    · rw [hx, hy]
      rcases Except.map_eq_cases (storedItems_unsignedItems rest) with
        ⟨xs, ys, hxs, hys, hs⟩ | ⟨e, hxs, hys⟩
      · have hcons : DocValue.unsignedItems (x :: xs) = DocValue.unsignedItems (y :: ys) := by
          rw [DocValue.unsignedItems, DocValue.unsignedItems, h, hs]
        rw [hxs, hys]
        exact congrArg Except.ok hcons
      · rw [hxs, hys]
        rfl
    · rw [hx, hy]
      rfl

theorem storedFields_unsignedFields : ∀ fields : List (String × Json),
    (storedFields (unsignedFields fields)).map DocValue.unsignedFields =
      (storedFields fields).map DocValue.unsignedFields
  | [] => rfl
  | (n, v) :: rest => by
    rw [unsignedFields, storedFields, storedFields]
    rcases Except.map_eq_cases (stored_unsigned v) with ⟨x, y, hx, hy, h⟩ | ⟨e, hx, hy⟩
    · rw [hx, hy]
      rcases Except.map_eq_cases (storedFields_unsignedFields rest) with
        ⟨xs, ys, hxs, hys, hs⟩ | ⟨e, hxs, hys⟩
      · have hcons : DocValue.unsignedFields ((n, x) :: xs) =
            DocValue.unsignedFields ((n, y) :: ys) := by
          rw [DocValue.unsignedFields, DocValue.unsignedFields, h, hs]
        rw [hxs, hys]
        exact congrArg Except.ok hcons
      · rw [hxs, hys]
        rfl
    · rw [hx, hy]
      rfl

end

end Json

end CacheAside
