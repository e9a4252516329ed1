import CacheAside.Proofs.Grid.Entries
import CacheAside.Proofs.Map.Calls
/-!
Runs of a grid: any calls on it and through the handles that it has given. What the grid says of a
name is decided by the calls since the name was last dropped. A map stays what it was created as
until its name is dropped, and its handles stay with it beyond that.
-/

set_option autoImplicit false

namespace CacheAside

variable {Kind : Type} {Val : Kind → Type}

inductive GridCall (Val : Kind → Type) : Type → Type 1 where
  | configure (name : String) (p : MapPolicy) : GridCall Val Bool
  | openMap (name : String) (k : Kind) : GridCall Val (Except (OpenError Kind) (Handle k))
  | drop (name : String) : GridCall Val Bool
  | contains (name : String) : GridCall Val Bool
  | mapNames : GridCall Val (List String)
  | policyOf (name : String) : GridCall Val MapPolicy
  | use {k : Kind} {α : Type} (h : Handle k) (c : MapCall (Val k) α) : GridCall Val (Option α)
  | lose {k : Kind} (h : Handle k) (key : Key) : GridCall Val Unit

structure GridReply (Val : Kind → Type) : Type 1 where
  {α : Type}
  call : GridCall Val α
  reply : α

namespace GridReply

def drops (name : String) : GridReply Val → Bool
  | ⟨.drop n, _⟩ => n = name
  | _ => false

def opens (name : String) : GridReply Val → Bool
  | ⟨.openMap n _, had⟩ => had.isOk && n = name
  | _ => false

def accepted? (name : String) : GridReply Val → Option MapPolicy
  | ⟨.configure n p, done⟩ => if done && n = name then some p else none
  | _ => none

def given? : GridReply Val → Option (Place Kind)
  | ⟨.openMap _ k, .ok h⟩ => some ⟨k, h.index⟩
  | _ => none

def place? : GridReply Val → Option Nat
  | ⟨.use h _, _⟩ => some h.index
  | ⟨.lose h _, _⟩ => some h.index
  | _ => none

def since (name : String) (past : List (GridReply Val)) : List (GridReply Val) :=
  past.takeWhile fun x => !x.drops name

theorem since_cons (name : String) (x : GridReply Val) (past : List (GridReply Val)) :
    since name (x :: past) = if x.drops name then [] else x :: since name past := by
  cases h : x.drops name <;> simp [since, h]

end GridReply

open GridReply

namespace Grid

variable [DecidableEq Kind] {g g' : Grid Kind Val} {name : String} {k l : Kind} {α : Type}

def perform (g : Grid Kind Val) : GridCall Val α → α × Grid Kind Val
  | .configure name p => g.configure name p
  | .openMap name k => g.openMap name k
  | .drop name => g.drop name
  | .contains name => (g.contains name, g)
  | .mapNames => (g.mapNames, g)
  | .policyOf name => (g.policyOf name, g)
  | .use h c => ((g.map? h).map fun m => (m.perform c).1, g.updateMap h fun m => (m.perform c).2)
  | .lose h key => ((), g.updateMap h fun m => m.lose key)

/-- The grids that calls lead to, with the calls on the way, the latest first. -/
inductive Runs (g₀ : Grid Kind Val) : Grid Kind Val → List (GridReply Val) → Prop
  | nil : Runs g₀ g₀ []
  | call {g : Grid Kind Val} {past : List (GridReply Val)} {α : Type} (before : Runs g₀ g past)
    (c : GridCall Val α) : Runs g₀ (g.perform c).2 (⟨c, (g.perform c).1⟩ :: past)

/-! ### The list of names -/

theorem perm_insertName (n : String) (names : List String) :
    (insertName n names).Perm (n :: names) := by
  induction names with
  | nil => exact .refl _
  | cons m rest ih =>
    unfold insertName
    split
    · exact (ih.cons m).trans (.swap n m rest)
    · exact .refl _

theorem perm_foldr_insertName (names : List String) : (names.foldr insertName []).Perm names := by
  induction names with
  | nil => exact .refl _
  | cons n rest ih => exact (perm_insertName n _).trans (ih.cons n)

omit [DecidableEq Kind] in
theorem nodup_mapNames (g : Grid Kind Val) : g.mapNames.Nodup :=
  (perm_foldr_insertName g.names.keys).nodup_iff.2 g.names.nodup

omit [DecidableEq Kind] in
theorem mem_mapNames : name ∈ g.mapNames ↔ g.contains name = true := by
  rw [mapNames, (perm_foldr_insertName _).mem_iff, contains, Table.contains,
    Option.isSome_iff_exists, Table.keys, List.mem_map]
  constructor
  · rintro ⟨⟨_, place⟩, he, rfl⟩
    exact ⟨place, (g.names.mem_entries_iff _ place).1 he⟩
  · rintro ⟨place, hp⟩
    exact ⟨(name, place), (g.names.mem_entries_iff name place).2 hp, rfl⟩

/-! ### What one call does to the grid -/

def added (g : Grid Kind Val) (name : String) (k : Kind) : Grid Kind Val :=
  { g with
    names := g.names.insert name ⟨k, g.cells.length⟩
    cells := g.cells ++ [⟨k, ⟨name, g.policyOf name, ∅⟩⟩] }

omit [DecidableEq Kind] in
theorem contains_iff {name : String} :
    g.contains name = true ↔ ∃ place, g.names.get? name = some place := by
  rw [contains, Table.contains, Option.isSome_iff_exists]

omit [DecidableEq Kind] in
theorem contains_eq_false_iff : g.contains name = false ↔ g.names.get? name = none := by
  rw [contains, Table.contains, Option.isSome_eq_false_iff, Option.isNone_iff_eq_none]

/-- The map of the name is had, or refused for its kind, or created unless its policy is flawed. -/
theorem openMap_cases (g : Grid Kind Val) (name : String) (k : Kind) :
    (∃ place, g.names.get? name = some place ∧
      g.openMap name k = (handleAt name k place, g)) ∨
    g.contains name = false ∧
      ((∃ flaw, (g.policyOf name).flaw? = some flaw ∧
          g.openMap name k = (.error (.flawed flaw), g)) ∨
        (g.policyOf name).flaw? = none ∧
          g.openMap name k = (.ok ⟨g.cells.length⟩, g.added name k)) := by
  rw [openMap_eq_findOrCreate]
  cases hname : g.names.get? name with
  | some place =>
    refine .inl ⟨place, rfl, ?_⟩
    simp [findOrCreate, find?, hname]
  | none =>
    refine .inr ⟨contains_eq_false_iff.2 hname, ?_⟩
    cases hflaw : (g.policyOf name).flaw? with
    | some flaw =>
      refine .inl ⟨flaw, rfl, ?_⟩
      simp [findOrCreate, find?, hname, EntryMap.create, hflaw]
    | none =>
      refine .inr ⟨rfl, ?_⟩
      simp [findOrCreate, find?, hname, EntryMap.create, hflaw, added]

theorem openMap_flawed_iff {flaw : PolicyFlaw} :
    (g.openMap name k).1 = .error (.flawed flaw) ↔
      g.contains name = false ∧ (g.policyOf name).flaw? = some flaw := by
  obtain ⟨place, hp, ho⟩ | ⟨habsent, ⟨found, hflaw, ho⟩ | ⟨hflaw, ho⟩⟩ := g.openMap_cases name k
  · have hpresent : g.contains name = true := contains_iff.2 ⟨place, hp⟩
    rw [ho, handleAt]
    split <;> simp [hpresent]
  · simp [ho, habsent, hflaw]
  · simp [ho, habsent, hflaw]

theorem openMap_of_unflawed (habsent : g.contains name = false)
    (hflaw : (g.policyOf name).flaw? = none) (k : Kind) :
    g.openMap name k = (.ok ⟨g.cells.length⟩, g.added name k) := by
  obtain ⟨place, hp, -⟩ | ⟨-, ⟨found, hfound, -⟩ | ⟨-, ho⟩⟩ := g.openMap_cases name k
  · rw [contains_eq_false_iff.1 habsent] at hp
    cases hp
  · rw [hflaw] at hfound
    cases hfound
  · exact ho

/-! ### Places -/

theorem index_lt {h : Handle k} {m : EntryMap (Val k)} (hm : g.map? h = some m) :
    h.index < g.cells.length := by
  obtain ⟨c, hc, -⟩ := Option.bind_eq_some_iff.1 hm
  exact (List.getElem?_eq_some_iff.1 hc).1

theorem map?_updateMap_of_ne {h : Handle k} {j : Handle l} (hne : j.index ≠ h.index)
    (f : EntryMap (Val l) → EntryMap (Val l)) : (g.updateMap j f).map? h = g.map? h := by
  simp only [updateMap, map?, List.getElem?_modify_ne _ _ hne]

theorem at?_update_of_ne (c : Cell Val) (hne : l ≠ k) (f : EntryMap (Val l) → EntryMap (Val l)) :
    (c.update l f).at? k = c.at? k := by
  by_cases hc : c.kind = l
  · simp [Cell.update, Cell.at?, hc, hne]
  · rw [Cell.update, dif_neg hc]

theorem map?_updateMap_created {h : Handle k} {j : Handle l} {m : EntryMap (Val k)}
    {f : EntryMap (Val l) → EntryMap (Val l)}
    (hf : ∀ n, (f n).name = n.name ∧ (f n).policy = n.policy) (hm : g.map? h = some m) :
    ∃ m', (g.updateMap j f).map? h = some m' ∧ m'.name = m.name ∧ m'.policy = m.policy := by
  by_cases hi : j.index = h.index
  · by_cases hk : l = k
    · subst hk
      obtain rfl : j = h := by cases j; cases h; exact congrArg _ hi
      exact ⟨f m, by rw [map?_updateMap, hm]; rfl, hf m⟩
    · refine ⟨m, ?_, rfl, rfl⟩
      rw [← hm, updateMap, map?, map?, hi, List.getElem?_modify_eq]
      cases g.cells[h.index]? with
      | none => rfl
      | some c => exact at?_update_of_ne c hk f
  · exact ⟨m, by rw [map?_updateMap_of_ne hi, hm], rfl, rfl⟩

theorem map?_added {h : Handle k} {m : EntryMap (Val k)} (hm : g.map? h = some m) :
    (g.added name l).map? h = some m := by
  rw [← hm]
  simp only [map?, added, List.getElem?_append_left (index_lt hm)]

theorem map?_added_new :
    (g.added name k).map? (⟨g.cells.length⟩ : Handle k) = some ⟨name, g.policyOf name, ∅⟩ := by
  simp [map?, added, Cell.at?]

/-! ### Names and policies -/

theorem names_perform_cases (g : Grid Kind Val) (c : GridCall Val α) :
    (∃ n l, g.contains n = false ∧ (g.perform c).2 = g.added n l ∧
        ∀ name, (GridReply.mk c (g.perform c).1).drops name = false) ∨
      ∀ name, (g.perform c).2.names.get? name =
        if (GridReply.mk c (g.perform c).1).drops name then none else g.names.get? name := by
  cases c with
  | configure n p =>
    refine .inr fun name => ?_
    simp only [perform, configure]
    split <;> rfl
  | openMap n k =>
    obtain ⟨_, -, ho⟩ | ⟨habsent, ⟨_, -, ho⟩ | ⟨-, ho⟩⟩ := g.openMap_cases n k
    · exact .inr fun name => by simp [perform, ho, GridReply.drops]
    · exact .inr fun name => by simp [perform, ho, GridReply.drops]
    · exact .inl ⟨n, k, habsent, by rw [perform, ho], fun _ => rfl⟩
  | drop n =>
    exact .inr fun name => by simp [perform, drop, dropName, dropPolicy, GridReply.drops]
  | contains | mapNames | policyOf | use | lose => exact .inr fun _ => rfl

theorem names_perform {c : GridCall Val α}
    (hc : (GridReply.mk c (g.perform c).1).drops name = false) {place : Place Kind}
    (hp : g.names.get? name = some place) : (g.perform c).2.names.get? name = some place := by
  obtain ⟨n, l, habsent, hadded, -⟩ | hkept := g.names_perform_cases c
  · have hne : n ≠ name := by
      rintro rfl
      rw [contains_eq_false_iff.1 habsent] at hp
      cases hp
    simp [hadded, added, hne, hp]
  · rw [hkept, hc, ← hp]
    rfl

theorem contains_perform (g : Grid Kind Val) (c : GridCall Val α) (name : String) :
    let x : GridReply Val := ⟨c, (g.perform c).1⟩
    (g.perform c).2.contains name = (!x.drops name && (x.opens name || g.contains name)) := by
  cases c with
  | configure n p =>
    simp only [perform, configure]
    split <;> rfl
  | openMap n k =>
    obtain ⟨place, hp, ho⟩ | ⟨-, ⟨_, -, ho⟩ | ⟨-, ho⟩⟩ := g.openMap_cases n k
    · have hn : n = name → g.contains name = true := by
        rintro rfl
        exact contains_iff.2 ⟨place, hp⟩
      simpa [perform, ho, GridReply.drops, GridReply.opens] using fun _ => hn
    · simp [perform, ho, GridReply.drops, GridReply.opens, Except.isOk, Except.toBool]
    · simp only [perform, ho]
      by_cases hn : n = name <;>
        simp [GridReply.drops, GridReply.opens, Except.isOk, Except.toBool, added, contains,
          Table.contains, hn]
  | drop n =>
    by_cases hn : n = name <;>
      simp [perform, drop, dropName, dropPolicy, contains, Table.contains, GridReply.drops,
        GridReply.opens, hn]
  | contains | mapNames | policyOf | use | lose => rfl

theorem policies_perform (g : Grid Kind Val) (c : GridCall Val α) (name : String) :
    let x : GridReply Val := ⟨c, (g.perform c).1⟩
    (g.perform c).2.policies.get? name =
      if x.drops name then none else (x.accepted? name).or (g.policies.get? name) := by
  cases c with
  | configure n p =>
    by_cases hc : g.contains n
    · simp [perform, configure, hc, GridReply.drops, GridReply.accepted?]
    · simp only [perform, configure, if_neg hc]
      by_cases hn : n = name <;> simp [GridReply.drops, GridReply.accepted?, hn]
  | openMap n k =>
    obtain ⟨_, -, ho⟩ | ⟨-, ⟨_, -, ho⟩ | ⟨-, ho⟩⟩ := g.openMap_cases n k <;>
      simp [perform, ho, GridReply.drops, GridReply.accepted?, added]
  | drop n =>
    by_cases hn : n = name <;>
      simp [perform, drop, dropName, dropPolicy, GridReply.drops, GridReply.accepted?, hn]
  | contains | mapNames | policyOf | use | lose => rfl

theorem standard_perform (g : Grid Kind Val) (c : GridCall Val α) :
    (g.perform c).2.standard = g.standard := by
  cases c with
  | configure n p =>
    simp only [perform, configure]
    split <;> rfl
  | openMap n k =>
    obtain ⟨_, -, ho⟩ | ⟨-, ⟨_, -, ho⟩ | ⟨-, ho⟩⟩ := g.openMap_cases n k <;> rw [perform, ho]
    rfl
  | drop | contains | mapNames | policyOf | use | lose => rfl

theorem accepted?_of_contains (h : g.contains name = true) (c : GridCall Val α) :
    (GridReply.mk c (g.perform c).1).accepted? name = none := by
  cases c with
  | configure n p =>
    by_cases hn : n = name
    · subst hn
      simp [perform, configure, h, GridReply.accepted?]
    · simp [GridReply.accepted?, hn]
  | openMap | drop | contains | mapNames | policyOf | use | lose => rfl

theorem policyOf_perform (h : g.contains name = true) {c : GridCall Val α}
    (hc : (GridReply.mk c (g.perform c).1).drops name = false) :
    (g.perform c).2.policyOf name = g.policyOf name := by
  rw [policyOf, policyOf, policies_perform, standard_perform, hc, accepted?_of_contains h]
  rfl

/-! ### Maps -/

/-- No call changes what a map was created as. -/
theorem map?_perform {h : Handle k} {m : EntryMap (Val k)} (hm : g.map? h = some m)
    (c : GridCall Val α) :
    ∃ m', (g.perform c).2.map? h = some m' ∧ m'.name = m.name ∧ m'.policy = m.policy := by
  cases c with
  | use j c => exact map?_updateMap_created (fun n => ⟨n.name_perform c, n.policy_perform c⟩) hm
  | lose j key => exact map?_updateMap_created (fun _ => ⟨rfl, rfl⟩) hm
  | configure n p =>
    refine ⟨m, ?_, rfl, rfl⟩
    simp only [perform, configure]
    split <;> exact hm
  | openMap n l =>
    refine ⟨m, ?_, rfl, rfl⟩
    obtain ⟨_, -, ho⟩ | ⟨-, ⟨_, -, ho⟩ | ⟨-, ho⟩⟩ := g.openMap_cases n l <;> rw [perform, ho]
    · exact hm
    · exact hm
    · exact map?_added hm
  | drop | contains | mapNames | policyOf => exact ⟨m, hm, rfl, rfl⟩

theorem map?_perform_of_ne {h : Handle k} {m : EntryMap (Val k)} (hm : g.map? h = some m)
    {c : GridCall Val α} (hc : (GridReply.mk c (g.perform c).1).place? ≠ some h.index) :
    (g.perform c).2.map? h = some m := by
  cases c with
  | use j c => exact (map?_updateMap_of_ne (fun he => hc (congrArg some he)) _).trans hm
  | lose j key => exact (map?_updateMap_of_ne (fun he => hc (congrArg some he)) _).trans hm
  | configure n p =>
    simp only [perform, configure]
    split <;> exact hm
  | openMap n l =>
    obtain ⟨_, -, ho⟩ | ⟨-, ⟨_, -, ho⟩ | ⟨-, ho⟩⟩ := g.openMap_cases n l <;> rw [perform, ho]
    · exact hm
    · exact hm
    · exact map?_added hm
  | drop | contains | mapNames | policyOf => exact hm

def Sound (g : Grid Kind Val) : Prop :=
  ∀ name place, g.names.get? name = some place →
    ∃ m, g.map? (⟨place.index⟩ : Handle place.kind) = some m ∧
      m.name = name ∧ m.policy = g.policyOf name

theorem sound_create (standard : MapPolicy) : (create standard : Grid Kind Val).Sound := by
  intro name place hp
  simp [create] at hp

theorem Sound.perform (hs : g.Sound) (c : GridCall Val α) : (g.perform c).2.Sound := by
  intro name place hp
  obtain ⟨n, l, -, hadded, -⟩ | hkept := g.names_perform_cases c
  · rw [hadded] at hp ⊢
    by_cases hn : n = name
    · subst hn
      obtain rfl : (⟨l, g.cells.length⟩ : Place Kind) = place := by simpa [added] using hp
      exact ⟨_, map?_added_new, rfl, rfl⟩
    · obtain ⟨m, hm, hname, hpolicy⟩ := hs name place (by simpa [added, hn] using hp)
      exact ⟨m, map?_added hm, hname, hpolicy⟩
  · rw [hkept] at hp
    cases hd : (GridReply.mk c (g.perform c).1).drops name with
    | true => simp [hd] at hp
    | false =>
      have hold : g.names.get? name = some place := by simpa [hd] using hp
      obtain ⟨m, hm, hname, hpolicy⟩ := hs name place hold
      obtain ⟨m', hm', hname', hpolicy'⟩ := map?_perform hm c
      refine ⟨m', hm', hname'.trans hname, ?_⟩
      rw [hpolicy', hpolicy, policyOf_perform (contains_iff.2 ⟨place, hold⟩) hd]

theorem map?_of_openMap (hs : g.Sound) {h : Handle k} (had : (g.openMap name k).1 = .ok h) :
    ∃ m, (g.openMap name k).2.map? h = some m ∧ m.name = name ∧ m.policy = g.policyOf name := by
  obtain ⟨place, hp, ho⟩ | ⟨-, ⟨_, -, ho⟩ | ⟨-, ho⟩⟩ := g.openMap_cases name k
  · obtain ⟨m, hm, hname, hpolicy⟩ := hs name place hp
    rw [ho] at had ⊢
    by_cases hk : place.kind = k
    · subst hk
      obtain rfl : (⟨place.index⟩ : Handle place.kind) = h := by simpa [handleAt] using had
      exact ⟨m, hm, hname, hpolicy⟩
    · simp [handleAt, hk] at had
  · rw [ho] at had
    cases had
  · rw [ho] at had ⊢
    cases had
    exact ⟨_, map?_added_new, rfl, rfl⟩

theorem map?_of_given (hs : g.Sound) {c : GridCall Val α} {place : Place Kind}
    (hp : (GridReply.mk c (g.perform c).1).given? = some place) :
    ∃ m, (g.perform c).2.map? (⟨place.index⟩ : Handle place.kind) = some m := by
  cases c with
  | openMap n k =>
    cases had : (g.openMap n k).1 with
    | error err => simp [perform, had, given?] at hp
    | ok h =>
      obtain rfl : (⟨k, h.index⟩ : Place Kind) = place := by simpa [perform, had, given?] using hp
      obtain ⟨m, hm, -⟩ := map?_of_openMap hs had
      exact ⟨m, hm⟩
  | configure | drop | contains | mapNames | policyOf | use | lose => simp [given?] at hp

/-! ### Runs -/

namespace Runs

variable {g₀ : Grid Kind Val} {past future : List (GridReply Val)} {standard : MapPolicy}

theorem sound (hs : g.Sound) (h : g.Runs g' future) : g'.Sound := by
  induction h with
  | nil => exact hs
  | call before c ih => exact ih.perform c

/-- While its name is not dropped a map is in its place, as it was created. -/
theorem keeps (h : g.Runs g' future) (hf : ∀ x ∈ future, x.drops name = false) {place : Place Kind}
    (hp : g.names.get? name = some place) :
    g'.names.get? name = some place ∧ g'.policyOf name = g.policyOf name := by
  induction h with
  | nil => exact ⟨hp, rfl⟩
  | call before c ih =>
    obtain ⟨hnames, hpolicy⟩ := ih fun x hx => hf x (.tail _ hx)
    have hc := hf _ (.head _)
    exact ⟨names_perform hc hnames,
      (policyOf_perform (contains_iff.2 ⟨place, hnames⟩) hc).trans hpolicy⟩

theorem untouched (h : g.Runs g' future) {j : Handle k} {m : EntryMap (Val k)}
    (hf : ∀ x ∈ future, x.place? ≠ some j.index) (hm : g.map? j = some m) : g'.map? j = some m := by
  induction h with
  | nil => exact hm
  | call before c ih =>
    exact map?_perform_of_ne (ih fun x hx => hf x (.tail _ hx)) (hf _ (.head _))

theorem standard_eq (h : g.Runs g' future) : g'.standard = g.standard := by
  induction h with
  | nil => rfl
  | call before c ih => rw [standard_perform, ih]

theorem contains_eq (h : (create standard).Runs g past) (name : String) :
    g.contains name = (since name past).any (·.opens name) := by
  induction h with
  | nil => rfl
  | call before c ih =>
    rw [contains_perform, ih, since_cons]
    cases (GridReply.mk c _).drops name <;> simp

theorem policies_eq (h : (create standard).Runs g past) (name : String) :
    g.policies.get? name = (since name past).findSome? (·.accepted? name) := by
  induction h with
  | nil => rfl
  | call before c ih =>
    rw [policies_perform, ih, since_cons]
    cases (GridReply.mk c _).drops name with
    | true => rfl
    | false => cases ha : (GridReply.mk c _).accepted? name <;> simp [ha]

theorem given (h : (create standard).Runs g past) {x : GridReply Val} (hx : x ∈ past)
    {place : Place Kind} (hp : x.given? = some place) :
    ∃ m, g.map? (⟨place.index⟩ : Handle place.kind) = some m := by
  induction h with
  | nil => exact nomatch hx
  | call before c ih =>
    rcases List.mem_cons.1 hx with rfl | hx
    · exact map?_of_given (before.sound (sound_create standard)) hp
    · obtain ⟨m, hm⟩ := ih hx
      obtain ⟨m', hm', -⟩ := map?_perform hm c
      exact ⟨m', hm'⟩

end Runs

/-! ### What a grid says of its past -/

/-- A name stands for a map: it is had at its own kind and refused at any other, and no policy is
accepted for it. -/
structure Stands (g : Grid Kind Val) (name : String) (h : Handle k) (m : EntryMap (Val k)) :
    Prop where
  behind : g.map? h = some m
  name_eq : m.name = name
  policy_eq : m.policy = g.policyOf name
  open_same : g.openMap name k = (.ok h, g)
  open_other : ∀ l, k ≠ l → g.openMap name l = (.error (.mismatch ⟨name, l, k⟩), g)
  configure : ∀ p, g.configure name p = (false, g)

theorem stands_of_place (hs : g.Sound) {place : Place Kind} (hp : g.names.get? name = some place) :
    ∃ m, g.Stands name (⟨place.index⟩ : Handle place.kind) m ∧ m.policy = g.policyOf name := by
  obtain ⟨m, hm, hname, hpolicy⟩ := hs name place hp
  refine ⟨m, ⟨hm, hname, hpolicy, ?_, fun l hl => ?_, fun p => ?_⟩, hpolicy⟩
  · simp [openMap, find?, hp, handleAt]
  · simp [openMap, find?, hp, handleAt, hl]
  · rw [Grid.configure, if_pos (contains_iff.2 ⟨place, hp⟩)]

/-- What a grid is after calls, as its callers can tell. A name that was had since it was last
dropped stands for one map, with one policy. Under any other a flawed policy leaves everything as it
was, and the rest give an empty map in a place of its own. A handle shows what its own calls made of
its map, whatever has become of the name. -/
structure Registry (standard : MapPolicy) (g : Grid Kind Val) (past : List (GridReply Val)) :
    Prop where
  contains_iff : ∀ name, g.contains name = true ↔ ∃ x ∈ since name past, x.opens name = true
  nodup_mapNames : g.mapNames.Nodup
  mem_mapNames : ∀ name, name ∈ g.mapNames ↔ g.contains name = true
  policyOf_eq : ∀ name, g.policyOf name =
    ((since name past).findSome? (·.accepted? name)).getD standard
  standing : ∀ name, g.contains name = true →
    ∃ (k : Kind) (h : Handle k) (m : EntryMap (Val k)), g.Stands name h m ∧
      ∀ {g' future}, g.Runs g' future → (∀ x ∈ future, x.drops name = false) →
        ∃ m', g'.Stands name h m' ∧ m'.policy = m.policy
  configure_absent : ∀ name p, g.contains name = false → (g.configure name p).1 = true
  open_absent : ∀ name (k : Kind), g.contains name = false →
    (∃ flaw, (g.policyOf name).flaw? = some flaw ∧
        g.openMap name k = (.error (.flawed flaw), g)) ∨
      ∃ (h : Handle k) (g' : Grid Kind Val), (g.policyOf name).flaw? = none ∧
        g.openMap name k = (.ok h, g') ∧ g'.map? h = some ⟨name, g.policyOf name, ∅⟩ ∧
        ∀ x ∈ past, ∀ place, x.given? = some place → place.index ≠ h.index
  handles : ∀ x ∈ past, ∀ {k : Kind} {h : Handle k}, x.given? = some ⟨k, h.index⟩ →
    ∃ m, g.map? h = some m ∧
      (∀ {α : Type} (c : MapCall (Val k) α), (g.perform (.use h c)).1 = some (m.perform c).1 ∧
        (g.perform (.use h c)).2.map? h = some (m.perform c).2) ∧
      ∀ {g' future}, g.Runs g' future → (∀ x ∈ future, x.place? ≠ some h.index) →
        g'.map? h = some m

namespace Runs

/-- A grid answers for its past, after any calls. -/
theorem registry {standard : MapPolicy} {past : List (GridReply Val)}
    (hg : (create standard).Runs g past) : Registry standard g past where
  contains_iff name := by rw [hg.contains_eq, List.any_eq_true]
  nodup_mapNames := g.nodup_mapNames
  mem_mapNames _ := mem_mapNames
  policyOf_eq name := by rw [policyOf, hg.policies_eq, hg.standard_eq]; rfl
  standing name hc := by
    have hs : g.Sound := hg.sound (sound_create standard)
    obtain ⟨place, hp⟩ := Grid.contains_iff.1 hc
    obtain ⟨m, hstands, hpolicy⟩ := stands_of_place hs hp
    refine ⟨place.kind, ⟨place.index⟩, m, hstands, fun hruns hf => ?_⟩
    obtain ⟨hp', hpolicy'⟩ := hruns.keeps hf hp
    obtain ⟨m', hstands', hm'⟩ := stands_of_place (hruns.sound hs) hp'
    exact ⟨m', hstands', by rw [hm', hpolicy', hpolicy]⟩
  configure_absent name p hc := by simp [configure, hc]
  open_absent name k hc := by
    obtain ⟨place, hp, -⟩ | ⟨-, ⟨flaw, hflaw, ho⟩ | ⟨hflaw, ho⟩⟩ := g.openMap_cases name k
    · rw [contains_eq_false_iff.1 hc] at hp
      cases hp
    · exact .inl ⟨flaw, hflaw, ho⟩
    · refine .inr ⟨⟨g.cells.length⟩, g.added name k, hflaw, ho, map?_added_new, ?_⟩
      intro x hx place hp
      obtain ⟨m, hm⟩ := hg.given hx hp
      exact Nat.ne_of_lt (index_lt hm)
  handles x hx k h hp := by
    obtain ⟨m, hm⟩ := hg.given hx hp
    refine ⟨m, hm, fun c => ⟨?_, ?_⟩, fun hruns hf => hruns.untouched hf hm⟩
    · simp only [perform]
      exact congrArg (Option.map _) hm
    · simp only [perform, map?_updateMap]
      exact congrArg (Option.map _) hm

end Runs

end Grid

namespace Grid.Reopened

def Worth : Bool → Type
  | true => String
  | false => Nat

def first : Handle true := ⟨0⟩

def second : Handle false := ⟨1⟩

theorem apart_from_first :
    ∃ (g : Grid Bool Worth) (past : List (GridReply Worth)),
      (create .standard).Runs g past ∧ Registry .standard g past ∧ past.length = 7 ∧
        (g.map? first).map (fun m => (m.policy, m.get? ⟨1⟩)) = some (.bulk, some "newer") ∧
        (g.map? second).map (fun m => (m.policy, m.get? ⟨1⟩)) = some (.standard, none) := by
  have runs := (((((((.nil : (create .standard : Grid Bool Worth).Runs _ []).call
    (.configure "users" .bulk)).call (.openMap "users" true)).call
    (.use first (.put ⟨1⟩ "older"))).call (.drop "users")).call (.openMap "users" false)).call
    (.openMap "users" true)).call (.use first (.put ⟨1⟩ "newer"))
  exact ⟨_, _, runs, runs.registry, rfl, rfl, rfl⟩

end Grid.Reopened

end CacheAside
