import CacheAside.Proofs.Grid.Sections
import CacheAside.Proofs.Grid.Registry
/-!
The first use of a name by many callers at once. Some open the map, at one kind of values, and put
values through the handles they get; others set the policy. Whatever the order of their sections,
one of them creates the map and all have it: an opening looks again before it creates, and reads
the policy in the same section.
-/

set_option autoImplicit false

namespace CacheAside

variable {Kind : Type} {Val : Kind → Type}

inductive Turn (V : Type) where
  | go (call : Nat)
  | put (call : Nat) (key : Key) (v : V)
  deriving DecidableEq

def Turn.goes {V : Type} (i : Nat) : Turn V → Bool
  | .go j => j = i
  | .put .. => false

/-- Callers of a name without a map, in turns. A map can be created with every policy there is. -/
structure FirstUse (Kind : Type) (Val : Kind → Type) where
  grid : Grid Kind Val
  name : String
  kind : Kind
  calls : List (NameCall Kind)
  turns : List (Turn (Val kind))
  absent : grid.contains name = false
  sound : (grid.policyOf name).flaw? = none
  asked : ∀ x ∈ calls, x = .openMap kind ∨ ∃ p, x = .configure p ∧ p.flaw? = none

namespace EntryMap

def lastPut {V : Type} (puts : List (Key × V)) (key : Key) : Option V :=
  ((puts.filter (·.1 = key)).getLast?).map Prod.snd

theorem get?_putAll {V : Type} {m : EntryMap V} (hr : m.policy.retains = true)
    (puts : List (Key × V)) (key : Key) :
    (m.putAll puts).get? key = (lastPut puts key).or (m.get? key) := by
  induction puts generalizing m with
  | nil => rfl
  | cons p rest ih =>
    have hput := ih (m := m.put p.1 p.2) (by rwa [policy_put])
    rw [get?_put hr] at hput
    refine hput.trans ?_
    by_cases h : p.1 = key
    · cases hl : (rest.filter (·.1 = key)).getLast? <;> simp [lastPut, h, hl, List.getLast?_cons]
    · simp [lastPut, h]

end EntryMap

namespace Grid

variable [DecidableEq Kind] {g : Grid Kind Val} {name : String} {k : Kind} {index : Nat}

/-! ## One section -/

theorem advance_configure_fst (g : Grid Kind Val) (name : String) (p : MapPolicy) :
    (g.advance name (.called (.configure p))).1 = .done (.told !g.contains name) := by
  cases h : g.contains name <;> simp [advance, configure, h]

section Absent

variable (h : g.names.get? name = none)
include h

theorem advance_configure_absent (p : MapPolicy) :
    g.advance name (.called (.configure p)) =
      (.done (.told true), { g with policies := g.policies.insert name p }) := by
  simp [advance, configure, contains_eq_false_iff.2 h]

theorem advance_openMap_absent : g.advance name (.called (.openMap k)) = (.creating k, g) := by
  simp [advance, find?, h]

theorem advance_creating_absent (hp : (g.policyOf name).flaw? = none) :
    g.advance name (.creating k) = (.done (.opened ⟨k, g.cells.length⟩), g.added name k) := by
  simp [advance, findOrCreate, find?, h, EntryMap.create, hp, NameReply.ofHandle, added]

end Absent

section Present

variable (h : g.names.get? name = some ⟨k, index⟩)
include h

theorem advance_configure_present (p : MapPolicy) :
    g.advance name (.called (.configure p)) = (.done (.told false), g) := by
  simp [advance, configure, contains_iff.2 ⟨_, h⟩]

theorem advance_openMap_present :
    g.advance name (.called (.openMap k)) = (.done (.opened ⟨k, index⟩), g) := by
  simp [advance, find?, h, handleAt, NameReply.ofHandle]

theorem advance_creating_present :
    g.advance name (.creating k) = (.done (.opened ⟨k, index⟩), g) := by
  simp [advance, findOrCreate, find?, h, handleAt, NameReply.ofHandle]

end Present

theorem modify_length_append {α : Type} (xs : List α) (x : α) (f : α → α) :
    (xs ++ [x]).modify xs.length f = xs ++ [f x] := by
  induction xs with
  | nil => rfl
  | cons y ys ih => simpa using ih

theorem updateMap_newest {cells : List (Cell Val)} {m : EntryMap (Val k)}
    (h : g.cells = cells ++ [⟨k, m⟩]) (f : EntryMap (Val k) → EntryMap (Val k)) :
    (g.updateMap (⟨cells.length⟩ : Handle k) f).cells = cells ++ [⟨k, f m⟩] := by
  rw [updateMap, h, modify_length_append]
  simp [Cell.update]

end Grid

namespace FirstUse

def place (c : FirstUse Kind Val) : Place Kind :=
  ⟨c.kind, c.grid.cells.length⟩

def handle (c : FirstUse Kind Val) : Handle c.kind :=
  ⟨c.grid.cells.length⟩

def start (c : FirstUse Kind Val) : Crowd Kind Val :=
  ⟨c.grid, c.calls.map .called⟩

def goes (c : FirstUse Kind Val) (n i : Nat) : Bool :=
  c.turns[n]?.any (·.goes i)

def gone (c : FirstUse Kind Val) (n i : Nat) : Nat :=
  (c.turns.take n).countP (·.goes i)

variable [DecidableEq Kind]

def step (c : FirstUse Kind Val) (t : Crowd Kind Val) : Turn (Val c.kind) → Crowd Kind Val
  | .go i => t.step c.name i
  | .put i key v =>
    match t.stages[i]? with
    | some (.done (.opened place)) =>
      { t with grid := t.grid.updateMap (⟨place.index⟩ : Handle c.kind) (·.put key v) }
    | _ => t

/-- How things are after so many turns. -/
def moment (c : FirstUse Kind Val) (n : Nat) : Crowd Kind Val :=
  (c.turns.take n).foldl c.step c.start

def section? (c : FirstUse Kind Val) (n : Nat) : Option (CallStage Kind) :=
  match c.turns[n]? with
  | some (.go i) => (c.moment n).stages[i]?
  | _ => none

/-- The policy that was set last before a turn, or else the one there was at the start. -/
def policyBefore (c : FirstUse Kind Val) : Nat → MapPolicy
  | 0 => c.grid.policyOf c.name
  | n + 1 =>
    match c.section? n with
    | some (.called (.configure p)) => p
    | _ => c.policyBefore n

def puts (c : FirstUse Kind Val) : Nat → List (Key × Val c.kind)
  | 0 => []
  | n + 1 =>
    match c.turns[n]? with
    | some (.put i key v) =>
      match (c.moment n).stages[i]? with
      | some (.done (.opened _)) => c.puts n ++ [(key, v)]
      | _ => c.puts n
    | _ => c.puts n

/-- The map is created in the turn. -/
def Creates (c : FirstUse Kind Val) (n : Nat) : Prop :=
  (c.moment n).grid.contains c.name = false ∧ (c.moment (n + 1)).grid.contains c.name = true

def mapBefore (c : FirstUse Kind Val) (b n : Nat) : EntryMap (Val c.kind) :=
  (EntryMap.mk c.name (c.policyBefore b) ∅).putAll (c.puts n)

variable {c : FirstUse Kind Val} {n i : Nat}

theorem moment_succ {t : Turn (Val c.kind)} (h : c.turns[n]? = some t) :
    c.moment (n + 1) = c.step (c.moment n) t := by
  rw [moment, List.take_add_one, h, List.foldl_append]
  rfl

theorem moment_succ_of_none (h : c.turns[n]? = none) : c.moment (n + 1) = c.moment n := by
  rw [moment, List.take_add_one, h, List.foldl_append]
  rfl

omit [DecidableEq Kind] in
theorem gone_succ (c : FirstUse Kind Val) (n i : Nat) :
    c.gone (n + 1) i = c.gone n i + (c.goes n i).toNat := by
  rw [gone, List.take_add_one, List.countP_append, gone, goes]
  cases h : c.turns[n]? with
  | none => rfl
  | some t => cases ht : t.goes i <;> simp [ht]

omit [DecidableEq Kind] in
theorem goes_iff : c.goes n i = true ↔ c.turns[n]? = some (.go i) := by
  rw [goes]
  cases h : c.turns[n]? with
  | none => simp
  | some t => cases t <;> simp [Turn.goes]

theorem stages_succ (c : FirstUse Kind Val) (n i : Nat) :
    (c.moment (n + 1)).stages[i]? =
      if c.goes n i then
        ((c.moment n).stages[i]?).map fun s => ((c.moment n).grid.advance c.name s).1
      else (c.moment n).stages[i]? := by
  cases ht : c.turns[n]? with
  | none => simp [goes, ht, moment_succ_of_none ht]
  | some t =>
    rw [moment_succ ht, goes, ht]
    cases t with
    | put j key v =>
      simp only [step, Option.any_some, Turn.goes]
      split <;> rfl
    | go j =>
      simp only [step, Option.any_some, Turn.goes, decide_eq_true_eq]
      cases hs : (c.moment n).stages[j]? with
      | none =>
        rw [Crowd.step_of_none hs]
        split
        · next hji => rw [← hji, hs, Option.map_none]
        · rfl
      | some s =>
        rw [Crowd.stages_step hs]
        by_cases hji : j = i
        · subst hji
          simp [hs]
        · simp [hji, Ne.symm hji]

/-! ## Before and after the creation -/

structure Vacant (c : FirstUse Kind Val) (n : Nat) : Prop where
  names : (c.moment n).grid.names.get? c.name = none
  cells : (c.moment n).grid.cells = c.grid.cells
  policy : (c.moment n).grid.policyOf c.name = c.policyBefore n
  sound : (c.policyBefore n).flaw? = none
  puts : c.puts n = []

structure Filled (c : FirstUse Kind Val) (b n : Nat) : Prop where
  creates : c.Creates b
  before : b < n
  names : (c.moment n).grid.names.get? c.name = some c.place
  cells : (c.moment n).grid.cells = c.grid.cells ++ [⟨c.kind, c.mapBefore b n⟩]

inductive Stage (c : FirstUse Kind Val) (n i : Nat) : CallStage Kind → Prop
  | called {x : NameCall Kind} (hx : c.calls[i]? = some x) (hgone : c.gone n i = 0) :
      Stage c n i (.called x)
  | creating (hx : c.calls[i]? = some (.openMap c.kind)) (hgone : c.gone n i = 1) :
      Stage c n i (.creating c.kind)
  | opened (hx : c.calls[i]? = some (.openMap c.kind))
      (there : (c.moment n).grid.contains c.name = true) : Stage c n i (.done (.opened c.place))
  | told {p : MapPolicy} {m : Nat} (hx : c.calls[i]? = some (.configure p)) (hm : m < n)
      (hturn : c.turns[m]? = some (.go i)) (first : c.gone m i = 0) :
      Stage c n i (.done (.told !(c.moment m).grid.contains c.name))

theorem Vacant.contains (h : c.Vacant n) : (c.moment n).grid.contains c.name = false :=
  Grid.contains_eq_false_iff.2 h.names

theorem Filled.contains {b : Nat} (h : c.Filled b n) :
    (c.moment n).grid.contains c.name = true :=
  Grid.contains_iff.2 ⟨_, h.names⟩

theorem Vacant.start (c : FirstUse Kind Val) : c.Vacant 0 :=
  ⟨Grid.contains_eq_false_iff.1 c.absent, rfl, rfl, c.sound, rfl⟩

theorem Stage.start {s : CallStage Kind} (h : (c.moment 0).stages[i]? = some s) :
    c.Stage 0 i s := by
  obtain ⟨x, hx, rfl⟩ := by simpa [moment, FirstUse.start] using h
  exact .called hx rfl

/-! ## One turn -/

structure Idle (c : FirstUse Kind Val) (n : Nat) : Prop where
  grid : (c.moment (n + 1)).grid = (c.moment n).grid
  policy : c.policyBefore (n + 1) = c.policyBefore n
  puts : c.puts (n + 1) = c.puts n

theorem Vacant.idle (h : c.Vacant n) (hidle : c.Idle n) : c.Vacant (n + 1) := by
  refine ⟨?_, ?_, ?_, ?_, ?_⟩
  · rw [hidle.grid, h.names]
  · rw [hidle.grid, h.cells]
  · rw [hidle.grid, h.policy, hidle.policy]
  · rw [hidle.policy, h.sound]
  · rw [hidle.puts, h.puts]

theorem Filled.idle {b : Nat} (h : c.Filled b n) (hidle : c.Idle n) : c.Filled b (n + 1) := by
  refine ⟨h.creates, Nat.lt_succ_of_lt h.before, ?_, ?_⟩
  · rw [hidle.grid, h.names]
  · rw [hidle.grid, h.cells, mapBefore, mapBefore, hidle.puts]

theorem idle_of_none (h : c.turns[n]? = none) : c.Idle n := by
  refine ⟨?_, ?_, ?_⟩
  · rw [moment_succ_of_none h]
  · simp [policyBefore, section?, h]
  · simp [puts, h]

theorem idle_of_put {key : Key} {v : Val c.kind} (h : c.turns[n]? = some (.put i key v))
    (hs : ∀ place, (c.moment n).stages[i]? ≠ some (.done (.opened place))) : c.Idle n := by
  refine ⟨?_, ?_, ?_⟩
  · rw [moment_succ h, step]
    split
    · next place hplace => exact absurd hplace (hs place)
    · rfl
  · simp [policyBefore, section?, h]
  · simp only [puts, h]

theorem idle_of_go (h : c.turns[n]? = some (.go i))
    (hs : ∀ s, (c.moment n).stages[i]? = some s →
      (∀ p, s ≠ .called (.configure p)) ∧
        ((c.moment n).grid.advance c.name s).2 = (c.moment n).grid) : c.Idle n := by
  refine ⟨?_, ?_, ?_⟩
  · rw [moment_succ h, step, Crowd.step]
    split
    · rfl
    · next s hst => exact (hs s hst).2
  · simp only [policyBefore, section?, h]
    split
    · next p hp => exact absurd rfl ((hs _ hp).1 p)
    · rfl
  · simp [puts, h]

theorem grid_succ {s : CallStage Kind} (h : c.turns[n]? = some (.go i))
    (hs : (c.moment n).stages[i]? = some s) :
    (c.moment (n + 1)).grid = ((c.moment n).grid.advance c.name s).2 := by
  rw [moment_succ h, step, Crowd.grid_step hs]

theorem puts_of_go (h : c.turns[n]? = some (.go i)) : c.puts (n + 1) = c.puts n := by
  simp only [puts, h]

omit [DecidableEq Kind] in
theorem asked_of_getElem? {x : NameCall Kind} (h : c.calls[i]? = some x) :
    x = .openMap c.kind ∨ ∃ p, x = .configure p ∧ p.flaw? = none :=
  c.asked x (List.mem_of_getElem? h)

theorem Vacant.step (h : c.Vacant n)
    (hs : ∀ i s, (c.moment n).stages[i]? = some s → c.Stage n i s) :
    c.Vacant (n + 1) ∨
      c.Filled n (n + 1) ∧ c.section? n = some (.creating c.kind) := by
  cases ht : c.turns[n]? with
  | none => exact .inl (h.idle (idle_of_none ht))
  | some t =>
    cases t with
    | put i key v =>
      refine .inl (h.idle (idle_of_put ht fun place hplace => ?_))
      cases hs i _ hplace with
      | opened _ there =>
        rw [h.contains] at there
        cases there
    | go i =>
      have hsection : c.section? n = (c.moment n).stages[i]? := by rw [section?, ht]
      cases hst : (c.moment n).stages[i]? with
      | none => exact .inl (h.idle (idle_of_go ht fun s hs' => by rw [hst] at hs'; cases hs'))
      | some s =>
        rw [hst] at hsection
        have hgrid := grid_succ ht hst
        have hputs := (puts_of_go ht).trans h.puts
        cases hs i s hst with
        | called hx =>
          rcases asked_of_getElem? hx with rfl | ⟨p, rfl, hp⟩
          · refine .inl (h.idle ⟨?_, ?_, puts_of_go ht⟩)
            · rw [hgrid, Grid.advance_openMap_absent h.names]
            · rw [policyBefore, hsection]
          · have hpolicy : c.policyBefore (n + 1) = p := by rw [policyBefore, hsection]
            rw [Grid.advance_configure_absent h.names] at hgrid
            refine .inl ⟨?_, ?_, ?_, ?_, hputs⟩
            · rw [hgrid, h.names]
            · rw [hgrid, h.cells]
            · rw [hgrid, hpolicy]
              simp [Grid.policyOf]
            · rw [hpolicy, hp]
        | creating =>
          refine .inr ⟨?_, hsection⟩
          have hsound : ((c.moment n).grid.policyOf c.name).flaw? = none := by
            rw [h.policy, h.sound]
          rw [Grid.advance_creating_absent h.names hsound] at hgrid
          have hnames : (c.moment (n + 1)).grid.names.get? c.name = some c.place := by
            simp [hgrid, Grid.added, h.cells, place]
          refine ⟨⟨h.contains, Grid.contains_iff.2 ⟨_, hnames⟩⟩, Nat.lt_succ_self n, hnames, ?_⟩
          simp only [hgrid, Grid.added, h.cells, h.policy, mapBefore, hputs]
          rfl
        | opened _ there =>
          rw [h.contains] at there
          cases there
        | told =>
          refine .inl (h.idle (idle_of_go ht fun s hs' => ?_))
          rw [hst] at hs'
          cases hs'
          exact ⟨fun _ h => (by cases h), rfl⟩

/-- After the creation only what is put changes the map. -/
theorem Filled.step {b : Nat} (h : c.Filled b n)
    (hs : ∀ i s, (c.moment n).stages[i]? = some s → c.Stage n i s) : c.Filled b (n + 1) := by
  cases ht : c.turns[n]? with
  | none => exact h.idle (idle_of_none ht)
  | some t =>
    cases t with
    | put i key v =>
      by_cases hopened : ∃ place, (c.moment n).stages[i]? = some (.done (.opened place))
      · obtain ⟨place, hplace⟩ := hopened
        cases hs i _ hplace
        have hgrid : (c.moment (n + 1)).grid =
            (c.moment n).grid.updateMap c.handle (·.put key v) := by
          rw [moment_succ ht, FirstUse.step, hplace]
          rfl
        have hputs : c.puts (n + 1) = c.puts n ++ [(key, v)] := by
          simp only [puts, ht, hplace]
        refine ⟨h.creates, Nat.lt_succ_of_lt h.before, ?_, ?_⟩
        · rw [hgrid]
          exact h.names
        · rw [hgrid, handle, Grid.updateMap_newest h.cells, mapBefore, mapBefore, hputs,
            EntryMap.putAll_append]
          rfl
      · exact h.idle (idle_of_put ht fun place hplace => hopened ⟨place, hplace⟩)
    | go i =>
      have hsection : c.section? n = (c.moment n).stages[i]? := by rw [section?, ht]
      cases hst : (c.moment n).stages[i]? with
      | none => exact h.idle (idle_of_go ht fun s hs' => by rw [hst] at hs'; cases hs')
      | some s =>
        have hgrid : (c.moment (n + 1)).grid = (c.moment n).grid := by
          rw [grid_succ ht hst]
          cases hs i s hst with
          | called hx =>
            rcases asked_of_getElem? hx with rfl | ⟨p, rfl, -⟩
            · rw [Grid.advance_openMap_present h.names]
            · rw [Grid.advance_configure_present h.names]
          | creating => rw [Grid.advance_creating_present h.names]
          | opened | told => rfl
        refine ⟨h.creates, Nat.lt_succ_of_lt h.before, ?_, ?_⟩
        · rw [hgrid, h.names]
        · rw [hgrid, h.cells, mapBefore, mapBefore, puts_of_go ht]

/-- Everything that holds before a turn. -/
structure Sound (c : FirstUse Kind Val) (n : Nat) : Prop where
  map : c.Vacant n ∨ ∃ b, c.Filled b n
  stages : ∀ i s, (c.moment n).stages[i]? = some s → c.Stage n i s

theorem Sound.contains_succ (h : c.Sound n) (hc : (c.moment n).grid.contains c.name = true) :
    (c.moment (n + 1)).grid.contains c.name = true := by
  obtain hv | ⟨b, hf⟩ := h.map
  · rw [hv.contains] at hc
    cases hc
  · exact (hf.step h.stages).contains

theorem Stage.of_not_goes {s : CallStage Kind} (h : c.Stage n i s) (hsound : c.Sound n)
    (hgoes : c.goes n i = false) : c.Stage (n + 1) i s := by
  have hgone : c.gone (n + 1) i = c.gone n i := by rw [gone_succ, hgoes]; rfl
  cases h with
  | called hx h => exact .called hx (hgone.trans h)
  | creating hx h => exact .creating hx (hgone.trans h)
  | opened hx there => exact .opened hx (hsound.contains_succ there)
  | told hx hm hturn first => exact .told hx (Nat.lt_succ_of_lt hm) hturn first

theorem Stage.advance {s : CallStage Kind} (h : c.Stage n i s) (hsound : c.Sound n)
    (ht : c.turns[n]? = some (.go i)) (hst : (c.moment n).stages[i]? = some s) :
    c.Stage (n + 1) i ((c.moment n).grid.advance c.name s).1 := by
  have hgone : c.gone (n + 1) i = c.gone n i + 1 := by rw [gone_succ, goes_iff.2 ht]; rfl
  cases h with
  | called hx h =>
    rcases asked_of_getElem? hx with rfl | ⟨p, rfl, -⟩
    · obtain hv | ⟨b, hf⟩ := hsound.map
      · rw [Grid.advance_openMap_absent hv.names]
        exact .creating hx (by rw [hgone, h])
      · rw [Grid.advance_openMap_present hf.names]
        exact .opened hx (hsound.contains_succ hf.contains)
    · rw [Grid.advance_configure_fst]
      exact .told hx (Nat.lt_succ_self n) ht h
  | creating hx h =>
    obtain hv | ⟨b, hf⟩ := hsound.map
    · have hsound' : ((c.moment n).grid.policyOf c.name).flaw? = none := by
        rw [hv.policy, hv.sound]
      have hgrid := grid_succ ht hst
      rw [Grid.advance_creating_absent hv.names hsound'] at hgrid ⊢
      rw [hv.cells]
      refine .opened hx ?_
      rw [hgrid]
      exact Grid.contains_iff.2 ⟨_, by simp [Grid.added]; rfl⟩
    · rw [Grid.advance_creating_present hf.names]
      exact .opened hx (hsound.contains_succ hf.contains)
  | opened hx there => exact .opened hx (hsound.contains_succ there)
  | told hx hm hturn first => exact .told hx (Nat.lt_succ_of_lt hm) hturn first

theorem Sound.succ (h : c.Sound n) : c.Sound (n + 1) := by
  constructor
  · obtain hv | ⟨b, hf⟩ := h.map
    · obtain hv | ⟨hf, -⟩ := hv.step h.stages
      · exact .inl hv
      · exact .inr ⟨n, hf⟩
    · exact .inr ⟨b, hf.step h.stages⟩
  · intro i s hs
    rw [stages_succ] at hs
    cases hgoes : c.goes n i with
    | false =>
      rw [hgoes] at hs
      exact (h.stages i s hs).of_not_goes h hgoes
    | true =>
      rw [hgoes, if_pos rfl, Option.map_eq_some_iff] at hs
      obtain ⟨s, hs, rfl⟩ := hs
      exact (h.stages i s hs).advance h (goes_iff.1 hgoes) hs

theorem sound_moment (c : FirstUse Kind Val) (n : Nat) : c.Sound n := by
  induction n with
  | zero => exact ⟨.inl (.start c), fun _ _ => .start⟩
  | succ n ih => exact ih.succ

/-! ## The whole run -/

theorem contains_mono {m : Nat} (hmn : m ≤ n) (h : (c.moment m).grid.contains c.name = true) :
    (c.moment n).grid.contains c.name = true := by
  induction hmn with
  | refl => exact h
  | step _ ih => exact (c.sound_moment _).contains_succ ih

theorem Creates.unique {a b : Nat} (ha : c.Creates a) (hb : c.Creates b) : a = b := by
  have hle {a b : Nat} (ha : c.Creates a) (hb : c.Creates b) : b ≤ a := by
    by_contra hlt
    have := contains_mono (Nat.succ_le_of_lt (Nat.lt_of_not_le hlt)) ha.2
    rw [hb.1] at this
    cases this
  exact Nat.le_antisymm (hle hb ha) (hle ha hb)

theorem contains_eq_false_iff :
    (c.moment n).grid.contains c.name = false ↔ ∀ b < n, ¬c.Creates b := by
  constructor
  · intro h b hb hcreates
    rw [contains_mono (Nat.succ_le_of_lt hb) hcreates.2] at h
    cases h
  · intro h
    obtain hv | ⟨b, hf⟩ := (c.sound_moment n).map
    · exact hv.contains
    · exact absurd hf.creates (h b hf.before)

/-- The map is created by the second section of an opening. -/
theorem Creates.section? {b : Nat} (h : c.Creates b) :
    c.section? b = some (.creating c.kind) := by
  have hsound := c.sound_moment b
  obtain hv | ⟨a, hf⟩ := hsound.map
  · obtain hv | ⟨-, hsection⟩ := hv.step hsound.stages
    · have := h.2
      rw [hv.contains] at this
      cases this
    · exact hsection
  · have := h.1
    rw [hf.contains] at this
    cases this

/-- What the callers have got after `n` turns: one map more than at the start, which all who have
opened the name have a handle on, with all that was put through any of these. Two sections are
enough to open it, and a policy is set if the first section of its call is before the creation. -/
structure Served (c : FirstUse Kind Val) (n : Nat) : Prop where
  cells : (∀ b < n, ¬c.Creates b) ∧ (c.moment n).grid.cells = c.grid.cells ∨
    ∃ b < n, c.Creates b ∧
      (c.moment n).grid.cells = c.grid.cells ++ [⟨c.kind, c.mapBefore b n⟩]
  opened : ∀ (i : Nat) (r : NameReply Kind), c.calls[i]? = some (.openMap c.kind) →
    (c.moment n).stages[i]? = some (.done r) →
    r = .opened c.place ∧ ∃ b < n, c.Creates b ∧
      (c.moment n).grid.map? c.handle = some (c.mapBefore b n) ∧
      ((c.policyBefore b).retains = true →
        ∀ key, (c.mapBefore b n).get? key = EntryMap.lastPut (c.puts n) key)
  returned : ∀ i : Nat, c.calls[i]? = some (.openMap c.kind) → 2 ≤ c.gone n i →
    (c.moment n).stages[i]? = some (.done (.opened c.place))
  told : ∀ (i : Nat) (p : MapPolicy), c.calls[i]? = some (.configure p) → 1 ≤ c.gone n i →
    ∃ m < n, c.turns[m]? = some (.go i) ∧ c.gone m i = 0 ∧
      ∃ yes, (c.moment n).stages[i]? = some (.done (.told yes)) ∧
        (yes = true ↔ ∀ b < m, ¬c.Creates b)

theorem exists_stage {x : NameCall Kind} (h : c.calls[i]? = some x) (n : Nat) :
    ∃ s, (c.moment n).stages[i]? = some s := by
  induction n with
  | zero => exact ⟨.called x, by simp [moment, start, h]⟩
  | succ n ih =>
    obtain ⟨s, hs⟩ := ih
    rw [stages_succ, hs]
    split
    · exact ⟨_, rfl⟩
    · exact ⟨s, rfl⟩

/-- However the sections of the calls and the puts follow each other, one map is created. -/
theorem one_map_created (c : FirstUse Kind Val) :
    (∀ a b, c.Creates a → c.Creates b → a = b) ∧
      (∀ b, c.Creates b → c.section? b = some (.creating c.kind)) ∧ ∀ n, c.Served n := by
  refine ⟨fun _ _ => Creates.unique, fun _ => Creates.section?, fun n => ?_⟩
  obtain ⟨hmap, hstages⟩ := c.sound_moment n
  constructor
  case cells =>
    obtain hv | ⟨b, hf⟩ := hmap
    · exact .inl ⟨contains_eq_false_iff.1 hv.contains, hv.cells⟩
    · exact .inr ⟨b, hf.before, hf.creates, hf.cells⟩
  case opened =>
    intro i r hi hr
    cases hstages i _ hr with
    | told hx =>
      rw [hi] at hx
      cases hx
    | opened _ there =>
      refine ⟨rfl, ?_⟩
      obtain hv | ⟨b, hf⟩ := hmap
      · rw [hv.contains] at there
        cases there
      · refine ⟨b, hf.before, hf.creates, ?_, fun hretains key => ?_⟩
        · simp [Grid.map?, hf.cells, handle, Cell.at?]
        · rw [mapBefore, EntryMap.get?_putAll hretains]
          exact Option.or_none
  case returned =>
    intro i hi hgone
    obtain ⟨s, hs⟩ := exists_stage hi n
    cases hstages i s hs with
    | called _ h | creating _ h => omega
    | opened => exact hs
    | told hx =>
      rw [hi] at hx
      cases hx
  case told =>
    intro i p hi hgone
    obtain ⟨s, hs⟩ := exists_stage hi n
    cases hstages i s hs with
    | called _ h => omega
    | creating hx | opened hx =>
      rw [hi] at hx
      cases hx
    | told hx hm hturn first =>
      refine ⟨_, hm, hturn, first, _, hs, ?_⟩
      rw [Bool.not_eq_true', contains_eq_false_iff]

namespace Rush

def Texts (_ : Bool) : Type :=
  String

def two : FirstUse Bool Texts where
  grid := .create .standard
  name := "users"
  kind := true
  calls := [.openMap true, .configure .bulk, .openMap true, .configure .standard]
  turns := [.go 0, .go 2, .go 1, .go 2, .go 3, .put 2 ⟨7⟩ "a", .go 0, .put 0 ⟨8⟩ "b",
    .put 0 ⟨7⟩ "c"]
  absent := rfl
  sound := rfl
  asked := by
    simp only [List.forall_mem_cons, true_or, reduceCtorEq, false_or, true_and]
    exact ⟨⟨_, rfl, rfl⟩, ⟨_, rfl, rfl⟩, nofun⟩

theorem both_served :
    two.Served 9 ∧ two.Creates 3 ∧
      (two.moment 9).stages = [.opened two.place, .told true, .opened two.place, .told false].map
        .done ∧
      two.policyBefore 3 = .bulk ∧ two.puts 9 = [(⟨7⟩, "a"), (⟨8⟩, "b"), (⟨7⟩, "c")] :=
  ⟨(one_map_created two).2.2 9, by unfold Creates; decide, by decide, rfl, rfl⟩

end Rush

end FirstUse

end CacheAside
