import CacheAside.Proofs.Grid.Sections
import Mathlib.Data.List.Permutation
/-!
Dropping a map among other calls on its name. The policy goes first and the map next; a policy that
waits for its map in between belongs to no map that is there, and a map that is created meanwhile
may be dropped without the policy it was created with. Where no drop that removes a map has had a
policy wait before it, the calls come to what they come to one after the other in some order.

That order is found section by section. A call takes its place in it with its last section, but a
drop that is half done when a policy waits takes its place then, as one that found no map.
-/

set_option autoImplicit false

namespace CacheAside

variable {Kind : Type} {Val : Kind → Type}

namespace Table

variable {K V : Type} [DecidableEq K] {t : Table K V} {k : K}

theorem erase_of_get?_eq_none (h : t.get? k = none) : t.erase k = t := by
  have hk : k ∉ t.entries.map Prod.fst := fun hmem => by
    obtain ⟨⟨l, v⟩, he, rfl⟩ := List.mem_map.1 hmem
    rw [(t.mem_entries_iff l v).1 he] at h
    cases h
  obtain ⟨entries, nodup⟩ := t
  simp only [erase, filter_ne_of_notMem hk]

theorem erase_erase (t : Table K V) (k : K) : (t.erase k).erase k = t.erase k :=
  erase_of_get?_eq_none (by simp)

end Table

namespace Grid

variable {g : Grid Kind Val} {name : String}

def waits (g : Grid Kind Val) (name : String) : Bool :=
  !g.contains name && g.policies.contains name

theorem dropPolicy_of_bare (h : g.policies.get? name = none) : g.dropPolicy name = g := by
  rw [dropPolicy, Table.erase_of_get?_eq_none h]

theorem dropPolicy_dropPolicy (g : Grid Kind Val) (name : String) :
    (g.dropPolicy name).dropPolicy name = g.dropPolicy name := by
  simp only [dropPolicy, Table.erase_erase]

theorem dropName_of_absent (h : g.contains name = false) : g.dropName name = (false, g) := by
  have hnone : g.names.get? name = none := by simpa [contains, Table.contains] using h
  rw [dropName, h, Table.erase_of_get?_eq_none hnone]

theorem policies_of_not_waits (h : g.waits name = false) (habsent : g.contains name = false) :
    g.policies.get? name = none := by
  simpa [waits, habsent, Table.contains] using h

theorem drop_of_bare (absent : g.contains name = false) (bare : g.policies.get? name = none) :
    g.drop name = (false, g) := by
  rw [drop, dropPolicy_of_bare bare, dropName_of_absent absent]

theorem get?_policies_dropPolicy (g : Grid Kind Val) (name : String) :
    (g.dropPolicy name).policies.get? name = none := by
  simp [dropPolicy]

end Grid

structure Served (Kind : Type) where
  number : Nat
  call : NameCall Kind
  reply : NameReply Kind

def Served.missed (i : Nat) : Served Kind :=
  ⟨i, .drop, .told false⟩

def CallStage.Fits (log : List (Served Kind)) (i : Nat) (c : NameCall Kind) :
    CallStage Kind → Prop
  | .called d => d = c ∧ i ∉ log.map Served.number
  | .creating k => c = .openMap k ∧ i ∉ log.map Served.number
  | .dropping => c = .drop ∧ (i ∈ log.map Served.number → .missed i ∈ log)
  | .done r => ⟨i, c, r⟩ ∈ log

theorem CallStage.Fits.mono {log more : List (Served Kind)} {i : Nat} {call : NameCall Kind}
    {s : CallStage Kind} (h : s.Fits log i call)
    (hmore : ∀ x ∈ more, x.number = i → x = .missed i ∧ s = .dropping) :
    s.Fits (log ++ more) i call := by
  have hnone (hs : s ≠ .dropping) : i ∉ more.map Served.number := fun hmem => by
    obtain ⟨x, hx, hxi⟩ := List.mem_map.1 hmem
    exact hs (hmore x hx hxi).2
  cases s with
  | called d => exact ⟨h.1, by simpa [h.2] using hnone (by simp)⟩
  | creating k => exact ⟨h.1, by simpa [h.2] using hnone (by simp)⟩
  | done r => exact List.mem_append_left _ h
  | dropping =>
    refine ⟨h.1, fun hmem => ?_⟩
    rw [List.map_append] at hmem
    rcases List.mem_append.1 hmem with hmem | hmem
    · exact List.mem_append_left _ (h.2 hmem)
    · obtain ⟨x, hx, hxi⟩ := List.mem_map.1 hmem
      exact List.mem_append_right _ ((hmore x hx hxi).1 ▸ hx)

namespace Crowd

/-- A drop that is half done and has no place in the order yet. -/
def Pending (t : Crowd Kind Val) (log : List (Served Kind)) (i : Nat) : Prop :=
  t.stages[i]? = some .dropping ∧ i ∉ log.map Served.number

instance [DecidableEq Kind] (t : Crowd Kind Val) (log : List (Served Kind)) :
    DecidablePred (t.Pending log) :=
  fun i => inferInstanceAs (Decidable (t.stages[i]? = some .dropping ∧ i ∉ log.map Served.number))

end Crowd

namespace Traffic

variable [DecidableEq Kind]

/-- Whenever a drop removes a map, no policy has waited since just before its first section. -/
def Timely (c : Traffic Kind Val) : Prop :=
  ∀ i a b, a < b → c.schedule[a]? = some i → c.schedule[b]? = some i →
    (c.moment a).stages[i]? = some (.called .drop) →
    (c.moment b).stages[i]? = some .dropping → (c.moment b).grid.contains c.name = true →
    ∀ m, a ≤ m → m ≤ b → (c.moment m).grid.waits c.name = false

/-- An order explains a moment: the calls in it have the replies that they have one after the
other, and come to the grid of the moment, but for a policy that a drop has taken away before its
map. -/
structure Explains (c : Traffic Kind Val) (n : Nat) (v : Grid Kind Val)
    (log : List (Served Kind)) : Prop where
  served : c.grid.serveAll c.name (log.map Served.call) = (log.map Served.reply, v)
  once : (log.map Served.number).Nodup
  known : ∀ x ∈ log, x.number < c.calls.length
  fits : ∀ i (s : CallStage Kind), (c.moment n).stages[i]? = some s →
    ∃ call, c.calls[i]? = some call ∧ s.Fits log i call
  grid : (c.moment n).grid = v ∨
    (c.moment n).grid = v.dropPolicy c.name ∧ v.contains c.name = true ∧
      ∃ i, (c.moment n).Pending log i
  bare : ∀ i, (c.moment n).Pending log i → (c.moment n).grid.policies.get? c.name = none
  begun : ∀ i, (c.moment n).stages[i]? = some .dropping →
    ∃ a < n, c.schedule[a]? = some i ∧ (c.moment a).stages[i]? = some (.called .drop) ∧
      (i ∈ log.map Served.number →
        ∃ m, a ≤ m ∧ m ≤ n ∧ (c.moment m).grid.waits c.name = true)

section Step

variable {c : Traffic Kind Val} {n i : Nat} {v w : Grid Kind Val} {log more : List (Served Kind)}
  {s : CallStage Kind} {call : NameCall Kind}

theorem explains_start (c : Traffic Kind Val) : c.Explains 0 c.grid [] where
  served := rfl
  once := .nil
  known _ hx := nomatch hx
  fits i s hs := by
    obtain ⟨call, hcall, rfl⟩ : ∃ call, c.calls[i]? = some call ∧ .called call = s := by
      simpa [moment, start] using hs
    exact ⟨call, hcall, rfl, List.not_mem_nil⟩
  grid := .inl rfl
  bare i hi := by simp [Crowd.Pending, moment, start] at hi
  begun i hi := by simp [moment, start] at hi

theorem Explains.names (h : c.Explains n v log) : (c.moment n).grid.names = v.names := by
  rcases h.grid with hg | ⟨hg, -⟩ <;> rw [hg]
  rfl

theorem Explains.contains (h : c.Explains n v log) (name : String) :
    (c.moment n).grid.contains name = v.contains name := by
  rw [Grid.contains, Grid.contains, h.names]

theorem Explains.grid_eq (h : c.Explains n v log) (absent : v.contains c.name = false) :
    (c.moment n).grid = v := by
  rcases h.grid with hg | ⟨-, hc, -⟩
  · exact hg
  · rw [absent] at hc
    cases hc

/-- A section after which more calls have their places: the caller's own, and those of drops that
are half done while a policy waits. -/
theorem Explains.extend (h : c.Explains n v log) (hi : c.schedule[n]? = some i)
    (hs : (c.moment n).stages[i]? = some s) (hcall : c.calls[i]? = some call)
    (served : v.serveAll c.name (more.map Served.call) = (more.map Served.reply, w))
    (once : (more.map Served.number).Nodup)
    (fresh : ∀ x ∈ more, x.number ∉ log.map Served.number)
    (own : ((c.moment n).grid.advance c.name s).1.Fits (log ++ more) i call)
    (others : ∀ x ∈ more, x.number ≠ i → x = .missed x.number ∧
      (c.moment n).stages[x.number]? = some .dropping ∧
      ((c.moment n).grid.advance c.name s).2.waits c.name = true)
    (begins : ((c.moment n).grid.advance c.name s).1 = .dropping → s = .called .drop ∧
      (i ∈ (log ++ more).map Served.number → (c.moment n).grid.waits c.name = true))
    (grid : ((c.moment n).grid.advance c.name s).2 = w ∨
      ((c.moment n).grid.advance c.name s).2 = w.dropPolicy c.name ∧ w.contains c.name = true ∧
        ∃ j, (c.moment (n + 1)).Pending (log ++ more) j)
    (bare : ∀ j, (c.moment (n + 1)).Pending (log ++ more) j →
      ((c.moment n).grid.advance c.name s).2.policies.get? c.name = none) :
    c.Explains (n + 1) w (log ++ more) := by
  have hgrid : (c.moment (n + 1)).grid = ((c.moment n).grid.advance c.name s).2 := by
    rw [moment_succ hi, Crowd.grid_step hs]
  have hstages (j : Nat) : (c.moment (n + 1)).stages[j]? =
      if j = i then some ((c.moment n).grid.advance c.name s).1 else (c.moment n).stages[j]? := by
    rw [moment_succ hi, Crowd.stages_step hs]
  refine ⟨?_, ?_, ?_, ?_, ?_, ?_, ?_⟩
  · rw [List.map_append, Grid.serveAll_append, h.served, served, List.map_append]
  · rw [List.map_append, List.nodup_append]
    refine ⟨h.once, once, ?_⟩
    rintro x hx y hy rfl
    obtain ⟨z, hz, rfl⟩ := List.mem_map.1 hy
    exact fresh z hz hx
  · intro x hx
    rcases List.mem_append.1 hx with hx | hx
    · exact h.known x hx
    · by_cases hxi : x.number = i
      · rw [hxi]
        exact (List.getElem?_eq_some_iff.1 hcall).1
      · obtain ⟨d, hd, -⟩ := h.fits _ _ (others x hx hxi).2.1
        exact (List.getElem?_eq_some_iff.1 hd).1
  · intro j u hu
    rw [hstages] at hu
    split at hu
    · rename_i hj
      cases hu
      subst hj
      exact ⟨call, hcall, own⟩
    · rename_i hj
      obtain ⟨d, hd, hfit⟩ := h.fits j u hu
      refine ⟨d, hd, CallStage.Fits.mono hfit fun x hx hxj => ?_⟩
      obtain ⟨hmissed, hdrop, -⟩ := others x hx (hxj ▸ hj)
      rw [hxj, hu] at hdrop
      exact ⟨hxj ▸ hmissed, Option.some.inj hdrop⟩
  · rwa [hgrid]
  · rwa [hgrid]
  · intro j hj
    rw [hstages] at hj
    split at hj
    · rename_i hji
      subst hji
      obtain ⟨rfl, hwaits⟩ := begins (Option.some.inj hj)
      exact ⟨n, Nat.lt_succ_self n, hi, hs, fun hmem =>
        ⟨n, Nat.le_refl n, Nat.le_succ n, hwaits hmem⟩⟩
    · rename_i hji
      obtain ⟨a, han, ha, hstage, hlate⟩ := h.begun j hj
      refine ⟨a, Nat.lt_succ_of_lt han, ha, hstage, fun hmem => ?_⟩
      rw [List.map_append] at hmem
      rcases List.mem_append.1 hmem with hmem | hmem
      · obtain ⟨m, ham, hmn, hwaits⟩ := hlate hmem
        exact ⟨m, ham, Nat.le_succ_of_le hmn, hwaits⟩
      · obtain ⟨x, hx, rfl⟩ := List.mem_map.1 hmem
        obtain ⟨-, -, hwaits⟩ := others x hx hji
        exact ⟨n + 1, Nat.le_of_lt (Nat.lt_succ_of_lt han), Nat.le_refl _, by rwa [hgrid]⟩

theorem pending_succ (hi : c.schedule[n]? = some i) (hs : (c.moment n).stages[i]? = some s)
    (j : Nat) : (c.moment (n + 1)).Pending (log ++ more) j ↔
      (if j = i then ((c.moment n).grid.advance c.name s).1 = .dropping
        else (c.moment n).stages[j]? = some .dropping) ∧
      j ∉ log.map Served.number ∧ j ∉ more.map Served.number := by
  rw [Crowd.Pending, moment_succ hi, Crowd.stages_step hs, List.map_append, List.mem_append, not_or]
  by_cases hj : j = i
  · simp [hj]
  · simp [hj]

theorem Explains.idle (h : c.Explains n v log) (same : c.moment (n + 1) = c.moment n) :
    c.Explains (n + 1) v log where
  served := h.served
  once := h.once
  known := h.known
  fits := by rw [same]; exact h.fits
  grid := by rw [same]; exact h.grid
  bare := by rw [same]; exact h.bare
  begun j hj := by
    rw [same] at hj
    obtain ⟨a, han, ha, hstage, hlate⟩ := h.begun j hj
    refine ⟨a, Nat.lt_succ_of_lt han, ha, hstage, fun hmem => ?_⟩
    obtain ⟨m, ham, hmn, hwaits⟩ := hlate hmem
    exact ⟨m, ham, Nat.le_succ_of_le hmn, hwaits⟩

theorem Explains.finish {r : NameReply Kind} (h : c.Explains n v log) (hi : c.schedule[n]? = some i)
    (hs : (c.moment n).stages[i]? = some s) (hcall : c.calls[i]? = some call)
    (fresh : i ∉ log.map Served.number) (served : v.serve c.name call = (r, w))
    (done : ((c.moment n).grid.advance c.name s).1 = .done r)
    (policies : ((c.moment n).grid.advance c.name s).2.policies = (c.moment n).grid.policies)
    (grid : ((c.moment n).grid.advance c.name s).2 = w ∨
      s ≠ .dropping ∧ ((c.moment n).grid.advance c.name s).2 = (c.moment n).grid ∧ w = v) :
    c.Explains (n + 1) w (log ++ [⟨i, call, r⟩]) := by
  have pending (j : Nat) : (c.moment (n + 1)).Pending (log ++ [⟨i, call, r⟩]) j ↔
      j ≠ i ∧ (c.moment n).Pending log j := by
    rw [pending_succ hi hs, done]
    by_cases hj : j = i <;> simp [hj, Crowd.Pending]
  refine h.extend hi hs hcall ?_ (by simp) (by simpa using fresh) ?_ ?_ ?_ ?_ ?_
  · simp [Grid.serveAll, served]
  · rw [done]
    exact List.mem_append_right _ (.head _)
  · intro x hx hxi
    rw [List.mem_singleton.1 hx] at hxi
    exact absurd rfl hxi
  · rw [done]
    intro hdrop
    cases hdrop
  · rcases grid with hw | ⟨hne, hsame, rfl⟩
    · exact .inl hw
    · rw [hsame]
      rcases h.grid with hgrid | ⟨hgrid, hcontains, j, hj⟩
      · exact .inl hgrid
      refine .inr ⟨hgrid, hcontains, j, (pending j).2 ⟨?_, hj⟩⟩
      rintro rfl
      rw [hj.1] at hs
      exact hne (Option.some.inj hs).symm
  · rw [policies]
    exact fun j hj => h.bare j ((pending j).1 hj).2

theorem serveAll_missed (name : String) (numbers : List Nat) (absent : v.contains name = false)
    (bare : numbers ≠ [] → v.policies.get? name = none) :
    v.serveAll name ((numbers.map (.missed : Nat → Served Kind)).map Served.call) =
      ((numbers.map Served.missed).map Served.reply, v) := by
  induction numbers with
  | nil => rfl
  | cons i rest ih =>
    have hdrop := Grid.drop_of_bare absent (bare (List.cons_ne_nil i rest))
    simp only [List.map_cons, Grid.serveAll, Served.missed, Grid.serve, hdrop]
    rw [ih fun _ => bare (List.cons_ne_nil i rest)]

/-- When a policy is set, drops that are half done take their places before it. -/
theorem Explains.configure {p : MapPolicy} (h : c.Explains n v log) (hi : c.schedule[n]? = some i)
    (hs : (c.moment n).stages[i]? = some (.called (.configure p))) :
    ∃ w more, c.Explains (n + 1) w (log ++ more) := by
  obtain ⟨call, hcall, rfl, fresh⟩ := h.fits i _ hs
  cases hc : v.contains c.name with
  | true =>
    have hconf : (c.moment n).grid.configure c.name p = (false, (c.moment n).grid) := by
      rw [Grid.configure, if_pos (by rw [h.contains, hc])]
    refine ⟨v, _, h.finish (r := .told false) hi hs hcall fresh ?_ ?_ ?_ (.inr ⟨by simp, ?_, rfl⟩)⟩
    · simp [Grid.serve, Grid.configure, hc]
    all_goals simp [Grid.advance, hconf]
  | false =>
    have hgrid := h.grid_eq hc
    have hconf : v.configure c.name p =
        (true, { v with policies := v.policies.insert c.name p }) := by
      rw [Grid.configure, if_neg (by simp [hc])]
    let late := (List.range c.calls.length).filter fun j => (c.moment n).Pending log j
    let more : List (Served Kind) := late.map .missed ++ [⟨i, .configure p, .told true⟩]
    have hlate {j : Nat} (hj : j ∈ late) : (c.moment n).Pending log j := by
      simpa using (List.mem_filter.1 hj).2
    have hnone (hne : late ≠ []) : v.policies.get? c.name = none := by
      obtain ⟨j, hj⟩ := List.exists_mem_of_ne_nil late hne
      rw [← hgrid]
      exact h.bare j (hlate hj)
    have hadv : (c.moment n).grid.advance c.name (.called (.configure p)) =
        (.done (.told true), { v with policies := v.policies.insert c.name p }) := by
      rw [Grid.advance, hgrid, hconf]
    have hnumbers : more.map Served.number = late ++ [i] := by
      simp [more, Function.comp_def, Served.missed]
    have hil : i ∉ late := fun hmem => by
      have hdrop := (hlate hmem).1
      rw [hs] at hdrop
      cases hdrop
    have nobody (j : Nat) : ¬ (c.moment (n + 1)).Pending (log ++ more) j := by
      rw [pending_succ hi hs, hadv, hnumbers]
      rintro ⟨hdrop, hlog, hmore⟩
      by_cases hj : j = i
      · simp [hj] at hdrop
      · rw [if_neg hj] at hdrop
        obtain ⟨d, hd, -⟩ := h.fits j _ hdrop
        refine hmore (List.mem_append_left _ (List.mem_filter.2 ⟨?_, ?_⟩))
        · exact List.mem_range.2 (List.getElem?_eq_some_iff.1 hd).1
        · exact decide_eq_true ⟨hdrop, hlog⟩
    refine ⟨{ v with policies := v.policies.insert c.name p }, more,
      h.extend hi hs hcall ?_ ?_ ?_ ?_ ?_ ?_ (.inl (by rw [hadv])) fun j hj => absurd hj (nobody j)⟩
    · simp only [more, List.map_append]
      rw [Grid.serveAll_append, serveAll_missed c.name late hc hnone]
      simp [Grid.serveAll, Grid.serve, hconf]
    · rw [hnumbers, List.nodup_append]
      refine ⟨List.nodup_range.filter _, by simp, fun a ha b hb hab => hil ?_⟩
      rwa [← List.mem_singleton.1 hb, ← hab]
    · intro x hx
      rcases List.mem_append.1 hx with hx | hx
      · obtain ⟨j, hj, rfl⟩ := List.mem_map.1 hx
        exact (hlate hj).2
      · rw [List.mem_singleton.1 hx]
        exact fresh
    · rw [hadv]
      exact List.mem_append_right _ (List.mem_append_right _ (.head _))
    · intro x hx hxi
      rcases List.mem_append.1 hx with hx | hx
      · obtain ⟨j, hj, rfl⟩ := List.mem_map.1 hx
        refine ⟨rfl, (hlate hj).1, ?_⟩
        rw [hadv]
        simpa [Grid.waits, Grid.contains, Table.contains] using hc
      · rw [List.mem_singleton.1 hx] at hxi
        exact absurd rfl hxi
    · rw [hadv]
      intro hdrop
      cases hdrop

theorem Explains.found {k : Kind} {had : Except (OpenError Kind) (Handle k)}
    (h : c.Explains n v log) (hi : c.schedule[n]? = some i)
    (hs : (c.moment n).stages[i]? = some s) (hcall : c.calls[i]? = some (.openMap k))
    (fresh : i ∉ log.map Served.number) (opening : s ≠ .dropping)
    (hv : v.find? c.name k = some had)
    (hadv : (c.moment n).grid.advance c.name s = (.done (.ofHandle k had), (c.moment n).grid)) :
    ∃ w more, c.Explains (n + 1) w (log ++ more) := by
  refine ⟨v, _, h.finish (r := .ofHandle k had) hi hs hcall fresh ?_ (by rw [hadv]) (by rw [hadv])
    (.inr ⟨opening, by rw [hadv], rfl⟩)⟩
  simp [Grid.serve, Grid.openMap, hv]

theorem Explains.find? (h : c.Explains n v log) (k : Kind) :
    (c.moment n).grid.find? c.name k = v.find? c.name k := by
  rw [Grid.find?, Grid.find?, h.names]

theorem Explains.openMap {k : Kind} (h : c.Explains n v log) (hi : c.schedule[n]? = some i)
    (hs : (c.moment n).stages[i]? = some (.called (.openMap k))) :
    ∃ w more, c.Explains (n + 1) w (log ++ more) := by
  obtain ⟨call, hcall, rfl, fresh⟩ := h.fits i _ hs
  cases hv : v.find? c.name k with
  | some had =>
    exact h.found hi hs hcall fresh (by simp) hv (by simp only [Grid.advance, h.find?, hv])
  | none =>
    have hadv : (c.moment n).grid.advance c.name (.called (.openMap k)) =
        (.creating k, (c.moment n).grid) := by
      simp only [Grid.advance, h.find?, hv]
    have pending (j : Nat) : (c.moment (n + 1)).Pending (log ++ []) j ↔
        (c.moment n).Pending log j := by
      rw [pending_succ hi hs, hadv]
      by_cases hj : j = i <;> simp [hj, Crowd.Pending, hs]
    refine ⟨v, [], h.extend hi hs hcall rfl .nil (List.forall_mem_nil _) ?_ (List.forall_mem_nil _)
      ?_ ?_ ?_⟩
    all_goals rw [hadv]
    · exact ⟨rfl, by simpa using fresh⟩
    · intro hdrop
      cases hdrop
    · rcases h.grid with hgrid | ⟨hgrid, hcontains, j, hj⟩
      · exact .inl hgrid
      · exact .inr ⟨hgrid, hcontains, j, (pending j).2 hj⟩
    · exact fun j hj => h.bare j ((pending j).1 hj)

theorem Explains.creating {k : Kind} (h : c.Explains n v log) (hi : c.schedule[n]? = some i)
    (hs : (c.moment n).stages[i]? = some (.creating k)) :
    ∃ w more, c.Explains (n + 1) w (log ++ more) := by
  obtain ⟨call, hcall, rfl, fresh⟩ := h.fits i _ hs
  cases hv : v.find? c.name k with
  | some had =>
    exact h.found hi hs hcall fresh (by simp) hv
      (by simp only [Grid.advance, Grid.findOrCreate, h.find?, hv])
  | none =>
    have hgrid : (c.moment n).grid = v := h.grid_eq (by
      simpa [Grid.find?, Grid.contains, Table.contains] using hv)
    have hpolicies : (v.findOrCreate c.name k).2.policies = v.policies := by
      simp only [Grid.findOrCreate, hv]
      split <;> rfl
    refine ⟨_, _, h.finish hi hs hcall fresh rfl ?_ ?_ (.inl ?_)⟩
    all_goals simp only [Grid.advance, hgrid, Grid.openMap_eq_findOrCreate]
    exact hpolicies

/-- The first half of a drop: it has missed if a policy waits. -/
theorem Explains.dropPolicy (h : c.Explains n v log) (hi : c.schedule[n]? = some i)
    (hs : (c.moment n).stages[i]? = some (.called .drop)) :
    ∃ w more, c.Explains (n + 1) w (log ++ more) := by
  obtain ⟨call, hcall, rfl, fresh⟩ := h.fits i _ hs
  have hadv : (c.moment n).grid.advance c.name (.called .drop) =
      (.dropping, (c.moment n).grid.dropPolicy c.name) := rfl
  have hbare := (c.moment n).grid.get?_policies_dropPolicy c.name
  cases hwaits : (c.moment n).grid.waits c.name with
  | true =>
    have absent : v.contains c.name = false := by
      rw [← h.contains]
      simp [Grid.waits] at hwaits
      exact hwaits.1
    have hgrid := h.grid_eq absent
    refine ⟨v.dropPolicy c.name, [.missed i], h.extend hi hs hcall ?_ (by simp)
      (by simpa [Served.missed] using fresh) ?_ ?_ (fun _ => ⟨rfl, fun _ => hwaits⟩)
      (.inl (by rw [hadv, hgrid])) fun _ _ => hbare⟩
    · have hdrop : v.drop c.name = (false, v.dropPolicy c.name) :=
        Grid.dropName_of_absent (g := v.dropPolicy c.name) absent
      simp [Grid.serveAll, Served.missed, Grid.serve, hdrop]
    · exact ⟨rfl, fun _ => List.mem_append_right _ (.head _)⟩
    · intro x hx hxi
      rw [List.mem_singleton.1 hx] at hxi
      exact absurd rfl hxi
  | false =>
    have fresh' : i ∉ (log ++ []).map Served.number := by simpa using fresh
    refine ⟨v, [], h.extend hi hs hcall rfl .nil (List.forall_mem_nil _) ?_ (List.forall_mem_nil _)
      (fun _ => ⟨rfl, fun hmem => absurd hmem fresh'⟩) ?_ fun _ _ => hbare⟩
    · exact ⟨rfl, fun hmem => absurd hmem fresh'⟩
    · rw [hadv]
      cases hc : v.contains c.name with
      | true =>
        refine .inr ⟨?_, rfl, i, ?_⟩
        · rcases h.grid with hg | ⟨hg, -⟩ <;> rw [hg]
          exact Grid.dropPolicy_dropPolicy v c.name
        · rw [pending_succ hi hs, if_pos rfl]
          exact ⟨rfl, fresh, List.not_mem_nil⟩
      | false =>
        have hgrid := h.grid_eq hc
        rw [hgrid] at hwaits ⊢
        exact .inl (Grid.dropPolicy_of_bare (Grid.policies_of_not_waits hwaits hc))

theorem Explains.absent_of_missed (timely : c.Timely) (h : c.Explains n v log)
    (hi : c.schedule[n]? = some i) (hs : (c.moment n).stages[i]? = some .dropping)
    (missed : i ∈ log.map Served.number) : (c.moment n).grid.contains c.name = false := by
  obtain ⟨a, han, ha, hstage, hlate⟩ := h.begun i hs
  obtain ⟨m, ham, hmn, hwaits⟩ := hlate missed
  by_contra hc
  have hnever := timely i a n han ha hi hstage hs (by simpa using hc) m ham hmn
  rw [hwaits] at hnever
  cases hnever

theorem Explains.dropName (timely : c.Timely) (h : c.Explains n v log)
    (hi : c.schedule[n]? = some i) (hs : (c.moment n).stages[i]? = some .dropping) :
    ∃ w more, c.Explains (n + 1) w (log ++ more) := by
  obtain ⟨call, hcall, rfl, hmissed⟩ := h.fits i _ hs
  by_cases missed : i ∈ log.map Served.number
  · have absent := h.absent_of_missed timely hi hs missed
    have hadv : (c.moment n).grid.advance c.name .dropping =
        (.done (.told false), (c.moment n).grid) := by
      rw [Grid.advance, Grid.dropName_of_absent absent]
    have hgrid := h.grid_eq (h.contains c.name ▸ absent)
    refine ⟨v, [], h.extend hi hs hcall rfl .nil (List.forall_mem_nil _) ?_ (List.forall_mem_nil _)
      ?_ (.inl (by rw [hadv, hgrid])) fun j hj => ?_⟩
    · rw [hadv]
      exact List.mem_append_left _ (hmissed missed)
    · rw [hadv]
      intro hdrop
      cases hdrop
    · rw [hadv]
      rw [pending_succ hi hs, hadv] at hj
      by_cases hji : j = i
      · simp [hji] at hj
      · rw [if_neg hji] at hj
        exact h.bare j ⟨hj.1, hj.2.1⟩
  · have hbare := h.bare i ⟨hs, missed⟩
    have hdrop : v.drop c.name =
        (((c.moment n).grid.dropName c.name).1, ((c.moment n).grid.dropName c.name).2) := by
      rcases h.grid with hg | ⟨hg, -⟩
      · rw [hg] at hbare ⊢
        rw [Grid.drop, Grid.dropPolicy_of_bare hbare]
      · rw [hg]
        rfl
    refine ⟨_, _, h.finish hi hs hcall missed ?_ rfl rfl (.inl rfl)⟩
    rw [Grid.serve, hdrop]
    rfl

theorem Explains.step (timely : c.Timely) (h : c.Explains n v log) (hn : n < c.schedule.length) :
    ∃ w more, c.Explains (n + 1) w (log ++ more) := by
  obtain ⟨i, hi⟩ : ∃ i, c.schedule[n]? = some i := ⟨_, List.getElem?_eq_getElem hn⟩
  have idle (same : (c.moment n).step c.name i = c.moment n) :
      ∃ w more, c.Explains (n + 1) w (log ++ more) :=
    ⟨v, [], by rw [List.append_nil]; exact h.idle ((moment_succ hi).trans same)⟩
  cases hs : (c.moment n).stages[i]? with
  | none => exact idle (Crowd.step_of_none hs)
  | some s =>
    cases s with
    | called call =>
      cases call with
      | configure p => exact h.configure hi hs
      | openMap k => exact h.openMap hi hs
      | drop => exact h.dropPolicy hi hs
    | creating k => exact h.creating hi hs
    | dropping => exact h.dropName timely hi hs
    | done r => exact idle (Crowd.step_of_done hs)

theorem explained (timely : c.Timely) (hn : n ≤ c.schedule.length) :
    ∃ v log, c.Explains n v log := by
  induction n with
  | zero => exact ⟨_, _, c.explains_start⟩
  | succ n ih =>
    obtain ⟨v, log, h⟩ := ih (Nat.le_of_succ_le hn)
    obtain ⟨w, more, hmore⟩ := h.step timely hn
    exact ⟨w, _, hmore⟩

/-- When all calls are done, their replies and the grid are those of the order. -/
theorem Explains.ended {replies : List (NameReply Kind)}
    (h : c.Explains n v log) (ended : (c.moment n).stages = replies.map .done) :
    (c.moment n).grid = v ∧
      (log.map fun x => (x.call, x.reply)).Perm (c.calls.zip replies) := by
  have hlength : replies.length = c.calls.length := by
    rw [← c.length_stages n, ended, List.length_map]
  have hlog {j : Nat} {d : NameCall Kind} {r : NameReply Kind} (hd : c.calls[j]? = some d)
      (hr : replies[j]? = some r) : ⟨j, d, r⟩ ∈ log := by
    obtain ⟨e, he, hfit⟩ := h.fits j (.done r) (by rw [ended, List.getElem?_map, hr]; rfl)
    rw [hd] at he
    cases he
    exact hfit
  refine ⟨?_, ?_⟩
  · rcases h.grid with hg | ⟨-, -, j, hj, -⟩
    · exact hg
    rw [ended, List.getElem?_map] at hj
    obtain ⟨r, -, hr⟩ := Option.map_eq_some_iff.1 hj
    cases hr
  · let every : List (Served Kind) := (c.calls.zip replies).zipIdx.map fun x => ⟨x.2, x.1.1, x.1.2⟩
    have hevery : every.map (fun x => (x.call, x.reply)) = c.calls.zip replies := by
      simp only [every, List.map_map, Function.comp_def, List.zipIdx_map_fst]
    have hmem (x : Served Kind) :
        x ∈ every ↔ c.calls[x.number]? = some x.call ∧ replies[x.number]? = some x.reply := by
      obtain ⟨j, d, r⟩ := x
      simp [every, List.mem_zipIdx_iff_getElem?, List.getElem?_zip_eq_some]
    have hperm : log.Perm every := by
      refine (List.perm_ext_iff_of_nodup (h.once.of_map _) ?_).2 fun x => ?_
      · refine .of_map Served.number ?_
        simp only [every, List.map_map, Function.comp_def, List.zipIdx_map_snd]
        exact List.nodup_range'
      · rw [hmem]
        refine ⟨fun hx => ?_, fun ⟨hd, hr⟩ => hlog hd hr⟩
        have hlt := h.known x hx
        have hd := List.getElem?_eq_getElem hlt
        have hr := List.getElem?_eq_getElem (hlength ▸ hlt)
        rw [List.inj_on_of_nodup_map h.once hx (hlog hd hr) rfl]
        exact ⟨hd, hr⟩
    rw [← hevery]
    exact hperm.map _

end Step

/-- Calls on one name, of which every drop is timely, come to what they come to in some order one
after the other, in their replies and in all that the grid holds; and where a drop has removed a
map no policy is left for the next. -/
theorem atomic_of_timely {c : Traffic Kind Val} (timely : c.Timely)
    {replies : List (NameReply Kind)} (ended : c.ending.stages = replies.map .done) :
    (∃ order : List (NameCall Kind × NameReply Kind), order.Perm (c.calls.zip replies) ∧
        c.grid.serveAll c.name (order.map Prod.fst) = (order.map Prod.snd, c.ending.grid)) ∧
      ∀ n i, c.schedule[n]? = some i → (c.moment n).stages[i]? = some .dropping →
        (c.moment n).grid.contains c.name = true →
        (c.moment (n + 1)).grid.policies.get? c.name = none := by
  refine ⟨?_, fun n i hi hs hc => ?_⟩
  · obtain ⟨v, log, h⟩ := explained timely (Nat.le_refl c.schedule.length)
    obtain ⟨hgrid, hperm⟩ := h.ended ended
    refine ⟨_, hperm, ?_⟩
    simp only [List.map_map, Function.comp_def]
    rw [h.served, ending, hgrid]
  · have hn := (List.getElem?_eq_some_iff.1 hi).1
    obtain ⟨v, log, h⟩ := explained timely (Nat.le_of_lt hn)
    have pending : (c.moment n).Pending log i := by
      refine ⟨hs, fun missed => ?_⟩
      rw [h.absent_of_missed timely hi hs missed] at hc
      cases hc
    rw [moment_succ hi, Crowd.grid_step hs]
    exact h.bare i pending

namespace Crossed

def Texts (_ : Bool) : Type :=
  String

def created : Traffic Bool Texts where
  grid := ((Grid.create .standard).configure "users" .bulk).2
  name := "users"
  calls := [.drop, .openMap true]
  schedule := [0, 1, 1, 0]

def configured : Traffic Bool Texts where
  grid := .create .standard
  name := "users"
  calls := [.drop, .configure .bulk, .openMap true]
  schedule := [0, 1, 2, 2, 0]

def view (g : Grid Bool Texts) : List MapPolicy × List (String × MapPolicy) :=
  (g.cells.map fun c => c.map.policy, g.policies.entries)

theorem not_in_order {c : Traffic Bool Texts} {replies : List (NameReply Bool)}
    (h : ∀ order ∈ (c.calls.zip replies).permutations',
      ((c.grid.serveAll c.name (order.map Prod.fst)).1,
        view (c.grid.serveAll c.name (order.map Prod.fst)).2) ≠
      (order.map Prod.snd, view c.ending.grid)) :
    ¬ ∃ order : List (NameCall Bool × NameReply Bool), order.Perm (c.calls.zip replies) ∧
      c.grid.serveAll c.name (order.map Prod.fst) = (order.map Prod.snd, c.ending.grid) := by
  rintro ⟨order, perm, hserved⟩
  refine h order (List.mem_permutations'.2 perm) ?_
  rw [hserved]

/-- Neither run comes to what its calls come to in any order. A drop that succeeds leaves the policy
behind that the map it removed was created with. -/
theorem no_order :
    (created.ending.stages = [.told true, .opened ⟨true, 0⟩].map .done ∧
        ¬ ∃ order : List (NameCall Bool × NameReply Bool),
          order.Perm (created.calls.zip [.told true, .opened ⟨true, 0⟩]) ∧
          created.grid.serveAll created.name (order.map Prod.fst) =
            (order.map Prod.snd, created.ending.grid)) ∧
      (configured.ending.stages = [.told true, .told true, .opened ⟨true, 0⟩].map .done ∧
        ¬ ∃ order : List (NameCall Bool × NameReply Bool),
          order.Perm (configured.calls.zip [.told true, .told true, .opened ⟨true, 0⟩]) ∧
          configured.grid.serveAll configured.name (order.map Prod.fst) =
            (order.map Prod.snd, configured.ending.grid)) ∧
      configured.ending.grid.contains "users" = false ∧
      configured.ending.grid.cells.map (fun c => c.map.policy) = [.bulk] ∧
      configured.ending.grid.policyOf "users" = .bulk :=
  ⟨⟨by decide, not_in_order (by decide)⟩, ⟨by decide, not_in_order (by decide)⟩, rfl, rfl, rfl⟩

end Crossed

namespace Succession

def twice : Traffic Bool Crossed.Texts where
  grid := (((Grid.create .standard).configure "users" .bulk).2.openMap "users" false).2
  name := "users"
  calls := [.drop, .drop, .configure .bulk, .openMap true, .openMap false]
  schedule := [0, 1, 3, 0, 2, 4, 1, 4]

theorem timely : twice.Timely := by
  have removing : ∀ b < 8, (twice.schedule[b]?.bind fun i => (twice.moment b).stages[i]?) =
      some .dropping → (twice.moment b).grid.contains twice.name = true → b = 3 := by
    decide
  have never : ∀ m ≤ 3, (twice.moment m).grid.waits twice.name = false := by decide
  intro i a b _ _ hb _ hs hc m _ hm
  obtain rfl := removing b (List.getElem?_eq_some_iff.1 hb).1 (by rw [hb]; exact hs) hc
  exact never m hm

theorem in_order :
    twice.ending.stages =
        [.told true, .told false, .told true, .refused (.mismatch ⟨"users", true, false⟩),
          .opened ⟨false, 1⟩].map .done ∧
      ∃ order : List (NameCall Bool × NameReply Bool),
        order.Perm (twice.calls.zip [.told true, .told false, .told true,
          .refused (.mismatch ⟨"users", true, false⟩), .opened ⟨false, 1⟩]) ∧
        twice.grid.serveAll twice.name (order.map Prod.fst) =
          (order.map Prod.snd, twice.ending.grid) :=
  have ended : twice.ending.stages = _ := by decide
  ⟨ended, (atomic_of_timely timely ended).1⟩

end Succession

end Traffic

end CacheAside
