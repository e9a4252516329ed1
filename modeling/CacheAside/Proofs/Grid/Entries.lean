import CacheAside.Grid

set_option autoImplicit false

namespace CacheAside

namespace EntryMap

variable {V : Type}

def putAll (m : EntryMap V) (puts : List (Key × V)) : EntryMap V :=
  puts.foldl (fun m p => m.put p.1 p.2) m

theorem putAll_append (m : EntryMap V) (as bs : List (Key × V)) :
    m.putAll (as ++ bs) = (m.putAll as).putAll bs :=
  List.foldl_append

theorem get?_putAll_of_notMem {puts : List (Key × V)} {k : Key} (m : EntryMap V)
    (h : k ∉ puts.map Prod.fst) : (m.putAll puts).get? k = m.get? k := by
  induction puts generalizing m with
  | nil => rfl
  | cons p rest ih =>
    rw [List.map_cons, List.mem_cons, not_or] at h
    exact (ih (m.put p.1 p.2) h.2).trans (m.get?_put_of_ne (Ne.symm h.1) p.2)

theorem get?_putAll_of_mem {puts : List (Key × V)} {k : Key} {v : V} {m : EntryMap V}
    (hr : m.policy.retains = true) (nodup : (puts.map Prod.fst).Nodup) (h : (k, v) ∈ puts) :
    (m.putAll puts).get? k = some v := by
  induction puts generalizing m with
  | nil => exact nomatch h
  | cons p rest ih =>
    rw [List.map_cons, List.nodup_cons] at nodup
    rcases List.mem_cons.1 h with rfl | h
    · refine (get?_putAll_of_notMem _ nodup.1).trans ?_
      rw [get?_put hr, if_pos rfl]
    · exact ih (by rwa [policy_put]) nodup.2 h

end EntryMap

namespace Grid

variable {Kind : Type} {Val : Kind → Type} [DecidableEq Kind] {g : Grid Kind Val} {name : String}
  {k : Kind}

def valueAt? (g : Grid Kind Val) (name : String) (k : Kind) (key : Key) : Option (Val k) :=
  match g.find? name k with
  | some (.ok h) => (g.map? h).bind (·.get? key)
  | _ => none

theorem valueAt?_of_find? {h : Handle k} (hf : g.find? name k = some (.ok h))
    {map : EntryMap (Val k)} (hm : g.map? h = some map) (key : Key) :
    g.valueAt? name k key = map.get? key := by
  simp [valueAt?, hf, hm]

theorem at?_update (c : Cell Val) (k : Kind) (f : EntryMap (Val k) → EntryMap (Val k)) :
    (c.update k f).at? k = (c.at? k).map f := by
  obtain ⟨kind, map⟩ := c
  by_cases h : kind = k
  · subst h
    rw [Cell.update, dif_pos rfl, Cell.at?, dif_pos rfl, Cell.at?, dif_pos rfl]
    rfl
  · simp [Cell.update, Cell.at?, h]

theorem map?_updateMap (g : Grid Kind Val) (h : Handle k)
    (f : EntryMap (Val k) → EntryMap (Val k)) : (g.updateMap h f).map? h = (g.map? h).map f := by
  simp only [updateMap, map?, List.getElem?_modify_eq]
  cases g.cells[h.index]? with
  | none => rfl
  | some c => exact at?_update c k f

theorem valueAt?_updateMap {h : Handle k} (hf : g.find? name k = some (.ok h))
    {old : EntryMap (Val k)} (hm : g.map? h = some old) (map : EntryMap (Val k)) (key : Key) :
    (g.updateMap h fun _ => map).valueAt? name k key = map.get? key := by
  have hupdated := g.map?_updateMap h fun _ => map
  rw [hm, Option.map_some] at hupdated
  exact valueAt?_of_find? (g := g.updateMap h _) hf hupdated key

/-- The map of a name and kind does not exist yet, or it exists and keeps what is put into it. -/
def Takes (g : Grid Kind Val) (name : String) (k : Kind) : Prop :=
  g.contains name = false ∨
    ∃ h map, g.find? name k = some (.ok h) ∧ g.map? h = some map ∧ map.policy.retains = true

theorem openMap_of_absent (absent : g.find? name k = none) (bulk : g.policyOf name = .bulk) :
    let g₁ := (g.openMap name k).2
    g.openMap name k = (.ok ⟨g.cells.length⟩, g₁) ∧
      g₁.find? name k = some (.ok ⟨g.cells.length⟩) ∧
      g₁.map? (⟨g.cells.length⟩ : Handle k) = some ⟨name, .bulk, ∅⟩ := by
  have hopen : g.openMap name k = (.ok ⟨g.cells.length⟩,
      { g with
        names := g.names.insert name ⟨k, g.cells.length⟩
        cells := g.cells ++ [⟨k, ⟨name, .bulk, ∅⟩⟩] }) := by
    simp [openMap, findOrCreate, absent, bulk, EntryMap.create, MapPolicy.bulk_flaw?]
  rw [hopen]
  refine ⟨rfl, ?_, ?_⟩
  · simp [find?, handleAt]
  · simp [map?, Cell.at?]

/-- Set up for bulk loading, the map can be opened: it keeps entries and has those it had. -/
theorem openMap_configure (takes : g.Takes name k) :
    ∃ h map g₁, (g.configure name .bulk).2.openMap name k = (.ok h, g₁) ∧
      g₁.find? name k = some (.ok h) ∧ g₁.map? h = some map ∧ map.policy.retains = true ∧
      ∀ key, map.get? key = g.valueAt? name k key := by
  rcases takes with absent | ⟨h, map, hfind, hmap, retains⟩
  · have hname : g.names.get? name = none := by
      simpa [contains, Table.contains] using absent
    have hfind : (g.configure name .bulk).2.find? name k = none := by
      simp [configure, absent, find?, hname]
    have hpolicy : (g.configure name .bulk).2.policyOf name = .bulk := by
      simp [configure, absent, policyOf]
    obtain ⟨hopen, hfound, hmap⟩ := openMap_of_absent hfind hpolicy
    refine ⟨_, ⟨name, .bulk, ∅⟩, _, hopen, hfound, hmap, MapPolicy.bulk_retains, fun key => ?_⟩
    simp [valueAt?, find?, hname, EntryMap.get?]
  · have hname : g.contains name = true := by
      obtain ⟨place, hplace, -⟩ := Option.map_eq_some_iff.1 hfind
      simp [contains, Table.contains, hplace]
    refine ⟨h, map, g, ?_, hfind, hmap, retains, fun key => (valueAt?_of_find? hfind hmap key).symm⟩
    simp [configure, hname, openMap, hfind]

end Grid

end CacheAside
