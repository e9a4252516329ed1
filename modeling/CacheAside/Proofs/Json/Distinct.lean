import CacheAside.Json.Reader
import CacheAside.Json.Serial
import CacheAside.Proofs.Json.Equality
import CacheAside.Proofs.Outcome

set_option autoImplicit false

namespace CacheAside

namespace Json

theorem mem_put {n : String} {v : Json} {f : String × Json} {fields : List (String × Json)}
    (h : f ∈ Table.put n v fields) : f = (n, v) ∨ f ∈ fields := by
  induction fields with
  | nil => exact .inl (List.mem_singleton.1 h)
  | cons g rest ih =>
    obtain ⟨m, w⟩ := g
    unfold Table.put at h
    split at h
    · subst m
      rcases List.mem_cons.1 h with rfl | hrest
      · exact .inl rfl
      · exact .inr (List.mem_cons_of_mem _ hrest)
    · rcases List.mem_cons.1 h with rfl | hrest
      · exact .inr List.mem_cons_self
      · exact (ih hrest).imp_right (List.mem_cons_of_mem _)

theorem distinct_empty : (Json.object []).Distinct :=
  .object List.nodup_nil fun _ hf => (nomatch hf)

theorem Distinct.put {n : String} {v : Json} {done : List (String × Json)}
    (h : (Json.object done).Distinct) (hv : v.Distinct) :
    (Json.object (Table.put n v done)).Distinct := by
  cases h with
  | object names each =>
    refine .object (Table.nodup_keys_put n v names) fun f hf => ?_
    rcases mem_put hf with rfl | hmem
    · exact hv
    · exact each f hmem

theorem Distinct.mergeFields {fields : List (String × Json)} (h : ∀ f ∈ fields, f.2.Distinct) :
    (Json.object (mergeFields fields)).Distinct := by
  have hfold : ∀ done, (Json.object done).Distinct →
      (Json.object (fields.foldl (fun done f => Table.put f.1 f.2 done) done)).Distinct := by
    induction fields with
    | nil => exact fun done hdone => hdone
    | cons f rest ih =>
      rw [List.forall_mem_cons] at h
      exact fun done hdone => ih h.2 _ (hdone.put h.1)
  exact hfold [] distinct_empty

mutual

theorem distinct_merged : ∀ v : Json, v.merged.Distinct
  | .null => .null
  | .bool b => .bool b
  | .int n => .int n
  | .float x => .float x
  | .text s => .text s
  | .list items => .list (distinct_mergedItems items)
  | .object fields => .mergeFields (distinct_mergedFields fields)

theorem distinct_mergedItems : ∀ (items : List Json), ∀ v ∈ mergedItems items, v.Distinct
  | [] => fun _ hv => (nomatch hv)
  | v :: rest => List.forall_mem_cons.2 ⟨distinct_merged v, distinct_mergedItems rest⟩

theorem distinct_mergedFields :
    ∀ (fields : List (String × Json)), ∀ f ∈ mergedFields fields, f.2.Distinct
  | [] => fun _ hf => (nomatch hf)
  | (_, v) :: rest => List.forall_mem_cons.2 ⟨distinct_merged v, distinct_mergedFields rest⟩

end

/-- Whatever is read from a text has distinct names. -/
theorem distinct_of_parse? {s : String} {v : Json} (h : parse? s = some v) : v.Distinct := by
  obtain ⟨⟨w, rest⟩, -, h⟩ := Option.bind_eq_some_iff.1 h
  dsimp only at h
  split at h
  · cases h
    exact distinct_merged w
  · cases h

end Json

namespace Serial

theorem distinct_finiteFloat (x : Binary64) : (finiteFloat x).Distinct := by
  unfold finiteFloat
  split
  · exact .float x
  · exact .null

theorem distinct_singleton {n : String} {v : Json} (h : v.Distinct) :
    (Json.object [(n, v)]).Distinct :=
  .object (List.pairwise_singleton _ n) (List.forall_mem_singleton.2 h)

mutual

theorem distinct_toJson : ∀ (x : Serial) {v : Json}, x.toJson = .ok v → v.Distinct
  | .unit, v, h => by
    cases h
    exact .null
  | .bool b, v, h => by
    cases h
    exact .bool b
  | .int n, v, h => by
    rw [toJson] at h
    split at h <;> cases h
    exact .int n
  | .single x, v, h => by
    cases h
    exact distinct_finiteFloat x.widen
  | .double x, v, h => by
    cases h
    exact distinct_finiteFloat x
  | .char c, v, h => by
    cases h
    exact .text _
  | .text s, v, h | .named s, v, h => by
    cases h
    exact .text s
  | .bytes bs, v, h => by
    cases h
    refine .list fun v hv => ?_
    obtain ⟨b, -, rfl⟩ := List.mem_map.1 hv
    exact .int _
  | .wrapped x, v, h => distinct_toJson x h
  | .list items, v, h => by
    obtain ⟨vs, hvs, h⟩ := bind_eq_ok_iff.1 h
    cases h
    exact .list (distinct_itemsToJson items hvs)
  | .map entries, v, h => by
    obtain ⟨fs, hfs, h⟩ := bind_eq_ok_iff.1 h
    cases h
    exact distinct_entriesToJson entries Json.distinct_empty hfs
  | .record fields, v, h => by
    obtain ⟨fs, hfs, h⟩ := bind_eq_ok_iff.1 h
    cases h
    exact distinct_fieldsToJson fields Json.distinct_empty hfs
  | .namedValue name x, v, h => by
    obtain ⟨w, hw, h⟩ := bind_eq_ok_iff.1 h
    cases h
    exact distinct_singleton (distinct_toJson x hw)
  | .namedList name items, v, h => by
    obtain ⟨vs, hvs, h⟩ := bind_eq_ok_iff.1 h
    cases h
    exact distinct_singleton (.list (distinct_itemsToJson items hvs))
  | .namedRecord name fields, v, h => by
    obtain ⟨fs, hfs, h⟩ := bind_eq_ok_iff.1 h
    cases h
    exact distinct_singleton (distinct_fieldsToJson fields Json.distinct_empty hfs)
  | .refusal message, v, h => by cases h

theorem distinct_itemsToJson :
    ∀ (items : List Serial) {vs : List Json}, itemsToJson items = .ok vs → ∀ v ∈ vs, v.Distinct
  | [], vs, h => by
    cases h
    exact fun v hv => (nomatch hv)
  | x :: rest, vs, h => by
    obtain ⟨w, hw, h⟩ := bind_eq_ok_iff.1 h
    obtain ⟨ws, hws, h⟩ := bind_eq_ok_iff.1 h
    cases h
    exact List.forall_mem_cons.2 ⟨distinct_toJson x hw, distinct_itemsToJson rest hws⟩

theorem distinct_entriesToJson :
    ∀ (entries : List (Serial × Serial)) {done fs : List (String × Json)},
      (Json.object done).Distinct → entriesToJson done entries = .ok fs → (Json.object fs).Distinct
  | [], done, fs, hdone, h => by
    cases h
    exact hdone
  | (k, x) :: rest, done, fs, hdone, h => by
    obtain ⟨name, -, h⟩ := bind_eq_ok_iff.1 h
    obtain ⟨w, hw, h⟩ := bind_eq_ok_iff.1 h
    exact distinct_entriesToJson rest (hdone.put (distinct_toJson x hw)) h

theorem distinct_fieldsToJson :
    ∀ (fields : List (String × Serial)) {done fs : List (String × Json)},
      (Json.object done).Distinct → fieldsToJson done fields = .ok fs → (Json.object fs).Distinct
  | [], done, fs, hdone, h => by
    cases h
    exact hdone
  | (name, x) :: rest, done, fs, hdone, h => by
    obtain ⟨w, hw, h⟩ := bind_eq_ok_iff.1 h
    exact distinct_fieldsToJson rest (hdone.put (distinct_toJson x hw)) h

end

end Serial

end CacheAside
