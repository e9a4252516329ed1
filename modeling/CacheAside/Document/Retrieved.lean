import CacheAside.Document.Extended
import CacheAside.Document.Stored
import CacheAside.Text.Utf8

set_option autoImplicit false

namespace CacheAside

namespace Mark

abbrev PartCheck : Type := String × (Json → Except ReadError Json)

/-- The parts of a body, as the array of them; an object has no other fields. -/
def orderedParts (parts : List PartCheck) : Json → Except ReadError Json
  | .list items => .list <$> (items.zip parts).mapM fun (v, p) => p.2 v
  | .object fields => do
    let done ← fields.mapM fun (name, v) => do
      let check ← Reader.ofOption (Table.lookup name parts)
      return (name, ← check v)
    .list <$> parts.mapM fun p => Reader.required p.1 (Table.lookup p.1 done)
  | _ => .error .malformed

def PartKind.check : PartKind → Json → Except ReadError Json
  | .text => fun v => Reader.ofOption (textOnly v)
  | .word => fun v => Reader.ofOption (wordOnly v)
  | .id => orderedParts [("$oid", fun v => Reader.ofOption (textOnly v))]

def retrieved (mark : String) (body : Json) : Except ReadError DocValue := do
  let body ←
    match partsOf mark with
    | [] => pure body
    | parts => orderedParts (parts.map fun p => (p.1, p.2.check)) body
  Reader.ofOption (value? mark body)

end Mark

namespace DocValue

def text? : DocValue → Option String
  | .text s => some s
  | .binary 0 bs => Text.decode? bs
  | _ => none

def document? : DocValue → Option Document
  | .document d => some d
  | _ => none

mutual

def retrieved : DocValue → Except ReadError DocValue
  | .document fields => retrievedFields [] fields
  | .array items => .array <$> retrievedItems items
  | .scopedCode source scope => do
    let v ← retrievedFields [] scope
    let scope ← Reader.ofOption v.document?
    return .scopedCode source scope
  | v => .ok v

def retrievedItems : List DocValue → Except ReadError (List DocValue)
  | [] => .ok []
  | v :: rest => do
    let x ← retrieved v
    let xs ← retrievedItems rest
    return x :: xs

def retrievedFields (done : Document) : List (String × DocValue) → Except ReadError DocValue
  | [] => .ok (.document done)
  | (name, v) :: rest =>
    match name with
    | "$code" => do
      let source ← Reader.ofOption v.text?
      match rest with
      | [] => return .code source
      | ("$scope", w) :: _ => do
        let scope ← Reader.ofOption (← retrieved w).document?
        return .scopedCode source scope
      | _ => .error .malformed
    | "$scope" => do
      let scope ← Reader.ofOption (← retrieved v).document?
      match rest with
      | [] => .error (.missingField "$code")
      | ("$code", w) :: _ => do
        let source ← Reader.ofOption w.text?
        return .scopedCode source scope
      | _ => .error .malformed
    | "$numberDecimalBytes" =>
      Reader.ofOption (Mark.bytesIn? (v.json .plain) >>= Mark.decimalOfBytes?)
    | _ =>
      if name ∈ Mark.single then Mark.retrieved name (v.json .plain)
      else do
        let v ← retrieved v
        retrievedFields (done ++ [(name, v)]) rest

end

mutual

/-- Whether no document in a value has a marked field, and no decimal loses anything as text. -/
def isUnmarked : DocValue → Bool
  | .document fields => areUnmarkedFields fields
  | .array items => areUnmarked items
  | .scopedCode _ scope => areUnmarkedFields scope
  | .decimal x => x.written = x
  | _ => true

def areUnmarked : List DocValue → Bool
  | [] => true
  | v :: rest => isUnmarked v && areUnmarked rest

def areUnmarkedFields : List (String × DocValue) → Bool
  | [] => true
  | (n, v) :: rest => n ∉ Mark.all && isUnmarked v && areUnmarkedFields rest

end

theorem ofStored?_unmarked {mark : String} (h : mark ∉ Mark.all) (v : DocValue) :
    ofStored? mark v = none := by
  simp only [Mark.all, Mark.single, List.mem_cons, List.not_mem_nil, or_false, not_or] at h
  cases v <;> simp [ofStored?, ofStoredParts?, Mark.ofText?, Mark.ofInt?, h]
  case binary => split <;> simp_all

theorem ofFields_unmarked {fields : Document} (h : areUnmarkedFields fields) :
    ofFields fields = .document fields := by
  unfold ofFields
  split
  · simp only [areUnmarkedFields, Bool.and_eq_true, decide_eq_true_eq] at h
    rw [ofStored?_unmarked h.1.1]
    rfl
  · simp [areUnmarkedFields, Mark.all] at h
  · simp [areUnmarkedFields, Mark.all] at h
  · rfl

mutual

/-- What is unmarked is stored as it is. -/
theorem stored_unmarked : ∀ v : DocValue, v.isUnmarked → v.stored = v
  | .document fields, h => by
    rw [isUnmarked] at h
    rw [stored, storedFields_unmarked fields h, ofFields_unmarked h]
  | .array items, h => by
    rw [isUnmarked] at h
    rw [stored, storedItems_unmarked items h]
  | .scopedCode source scope, h => by
    rw [isUnmarked] at h
    rw [stored, storedFields_unmarked scope h, ofFields_unmarked h]
    rfl
  | .decimal x, h => by simpa [isUnmarked, stored] using h
  | .double _, _ | .text _, _ | .binary _ _, _ | .objectId _, _ | .bool _, _ | .date _, _
  | .null, _ | .int32 _, _ | .int64 _, _ | .timestamp _ _, _ | .regex _ _, _ | .symbol _, _
  | .code _, _ | .pointer _ _, _ | .undefined, _ | .minKey, _ | .maxKey, _ => rfl

theorem storedItems_unmarked : ∀ items : List DocValue, areUnmarked items →
    storedItems items = items
  | [], _ => rfl
  | v :: rest, h => by
    rw [areUnmarked, Bool.and_eq_true] at h
    rw [storedItems, stored_unmarked v h.1, storedItems_unmarked rest h.2]

theorem storedFields_unmarked : ∀ fields : Document, areUnmarkedFields fields →
    storedFields fields = fields
  | [], _ => rfl
  | (n, v) :: rest, h => by
    simp only [areUnmarkedFields, Bool.and_eq_true] at h
    rw [storedFields, stored_unmarked v h.1.2, storedFields_unmarked rest h.2]

end

mutual

/-- What is unmarked is read as it is. -/
theorem retrieved_unmarked : ∀ v : DocValue, v.isUnmarked → v.retrieved = .ok v
  | .document fields, h => by
    rw [isUnmarked] at h
    rw [retrieved, retrievedFields_unmarked fields [] h, List.nil_append]
  | .array items, h => by
    rw [isUnmarked] at h
    rw [retrieved, retrievedItems_unmarked items h]
    rfl
  | .scopedCode source scope, h => by
    rw [isUnmarked] at h
    rw [retrieved, retrievedFields_unmarked scope [] h, List.nil_append]
    rfl
  | .decimal _, _
  | .double _, _ | .text _, _ | .binary _ _, _ | .objectId _, _ | .bool _, _ | .date _, _
  | .null, _ | .int32 _, _ | .int64 _, _ | .timestamp _ _, _ | .regex _ _, _ | .symbol _, _
  | .code _, _ | .pointer _ _, _ | .undefined, _ | .minKey, _ | .maxKey, _ => rfl

theorem retrievedItems_unmarked : ∀ items : List DocValue, areUnmarked items →
    retrievedItems items = .ok items
  | [], _ => rfl
  | v :: rest, h => by
    rw [areUnmarked, Bool.and_eq_true] at h
    rw [retrievedItems, retrieved_unmarked v h.1, retrievedItems_unmarked rest h.2]
    rfl

theorem retrievedFields_unmarked : ∀ (fields done : Document), areUnmarkedFields fields →
    retrievedFields done fields = .ok (.document (done ++ fields))
  | [], done, _ => by rw [retrievedFields, List.append_nil]
  | (n, v) :: rest, done, h => by
    simp only [areUnmarkedFields, Bool.and_eq_true, decide_eq_true_eq, Mark.all, List.mem_cons,
      not_or] at h
    obtain ⟨⟨⟨hc, hs, hd, hm⟩, hv⟩, hr⟩ := h
    rw [retrievedFields]
    · rw [if_neg hm, retrieved_unmarked v hv]
      simp [bind, Except.bind, retrievedFields_unmarked rest _ hr]
    all_goals assumption

end

end DocValue

end CacheAside
