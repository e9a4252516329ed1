import CacheAside.Proofs.Access.Operations

set_option autoImplicit false

namespace CacheAside

variable {E Out L : Type}

/-- A call that was made: by which task, for which work, and how it was met. -/
structure Called (E Out : Type) where
  task : Nat
  work : Work E Out
  conduct : Conduct E

inductive Work.LeadsTo : Work E Out → Work E Out → Prop
  | find (k : Key) (parts : List KeyPart) : LeadsTo (.readGrid k parts) (.readStore k parts)
  | save (k : Key) (e : E) : LeadsTo (.saveGrid k e) (.saveStore k e)
  | remove (k : Key) (e : E) : LeadsTo (.removeGrid k e) (.removeStore k e)
  | scan (span : Span) (rest : List E) : LeadsTo (.scan span) (.feed span rest 0)
  | feed (span : Span) (row : E) (rest : List E) (count : Nat) :
    LeadsTo (.feed span (row :: rest) count) (.feed span rest (count + 1))

def Work.GoesOn (w : Work E Out) : Prop :=
  ∃ v : Work E Out, v.LeadsTo w

theorem Work.leadsTo_of_advance [Entity E] {number : Nat} {listening : Bool} {map : EntryMap E}
    {store : RowStore E} {c : Conduct E} {v w : Work E Out}
    (h : (v.advance number listening map store c).progress = .next w) : v.LeadsTo w := by
  cases v with
  | readGrid k parts =>
    simp only [advance] at h
    split at h <;> cases h
    exact .find k parts
  | readStore k parts =>
    cases c <;> simp only [advance, failure] at h
    case serve | refuse =>
      generalize store.find parts = r at h
      obtain ⟨_ | _ | _, _⟩ := r <;> cases h
    case answer found => cases found <;> cases h
    all_goals cases h
  | refill k e => cases c <;> cases h
  | saveGrid k e => cases c <;> cases h <;> exact .save k e
  | saveStore k e =>
    cases c <;> simp only [advance, failure] at h
    case serve | answer =>
      generalize store.save e = r at h
      obtain ⟨_ | _, _⟩ := r <;> cases h
    all_goals cases h
  | removeGrid k e => cases c <;> cases h <;> exact .remove k e
  | removeStore k e =>
    cases c <;> simp only [advance, failure] at h
    case serve | answer =>
      generalize store.remove e = r at h
      obtain ⟨_ | _, _⟩ := r <;> cases h
    all_goals cases h
  | execute k p =>
    cases c <;> simp only [advance, failure] at h
    case serve | refuse | answer =>
      generalize map.submit k p = r at h
      obtain ⟨_ | _, _⟩ := r <;> cases h
    all_goals cases h
  | notify origin event e => cases h
  | scan span => cases c <;> cases h <;> exact .scan span _
  | feed span rest count =>
    obtain ⟨-, -, ⟨⟨a, hprog⟩, -⟩ | ⟨row, left, key, stamped, rfl, -, hprog, -⟩⟩ :=
      advance_feed number listening map store (c := c) span rest count
    · rw [hprog] at h
      cases h
    · rw [hprog] at h
      cases h
      exact .feed span row left count

namespace Tiers

def made (s : Tiers E Out L) : Event E Out L → List (Called E Out)
  | .call i c => (s.tasks[i]? >>= Task.work?).toList.map fun w => ⟨i, w, c⟩
  | .ask .. | .lose _ => []

def calls [Entity E] (s : Tiers E Out L) : List (Event E Out L) → List (Called E Out)
  | [] => []
  | e :: rest => s.made e ++ (s.step e).calls rest

theorem work?_eq_some_iff {s : Tiers E Out L} {i : Nat} {w : Work E Out} :
    (s.tasks[i]? >>= Task.work?) = some w ↔ s.Due i w := by
  constructor
  · intro h
    obtain ⟨⟨client, progress⟩, ht, hw⟩ := Option.bind_eq_some_iff.1 h
    cases progress with
    | done r => cases hw
    | next v =>
      cases hw
      exact ⟨client, ht⟩
  · rintro ⟨client, ht⟩
    simp [ht, Task.work?]

theorem made_of_due {s : Tiers E Out L} {i : Nat} {w : Work E Out} (h : s.Due i w)
    (c : Conduct E) : s.made (.call i c) = [⟨i, w, c⟩] := by
  simp [made, work?_eq_some_iff.2 h]

theorem made_of_not_due {s : Tiers E Out L} {i : Nat} (h : ∀ w, ¬ s.Due i w) (c : Conduct E) :
    s.made (.call i c) = [] := by
  cases hw : s.tasks[i]? >>= Task.work? with
  | none => simp [made, hw]
  | some w => exact absurd (work?_eq_some_iff.1 hw) (h w)

variable [Entity E]

theorem calls_append (s : Tiers E Out L) (as bs : List (Event E Out L)) :
    s.calls (as ++ bs) = s.calls as ++ (s.run as).calls bs := by
  induction as generalizing s with
  | nil => rfl
  | cons e rest ih =>
    have h : s.run (e :: rest) = (s.step e).run rest := rfl
    simp only [List.cons_append, calls, ih, h, List.append_assoc]

/-- What one event preserves of a state and the calls made so far, a permitted run preserves. -/
theorem run_calls_of_step {climate : Climate E Out} {P : Tiers E Out L → List (Called E Out) → Prop}
    (hstep : ∀ s h e, P s h → s.Permits climate e → P (s.step e) (h ++ s.made e))
    {s : Tiers E Out L} {h : List (Called E Out)} (hs : P s h) {events : List (Event E Out L)}
    (hp : s.PermitsAll climate events) : P (s.run events) (h ++ s.calls events) := by
  induction events generalizing s h with
  | nil => simpa [run, calls] using hs
  | cons e rest ih =>
    have := ih (hstep s h e hs hp.1) hp.2
    rwa [List.append_assoc] at this

theorem length_tasks_call (s : Tiers E Out L) (i : Nat) (c : Conduct E) :
    s.tasks.length ≤ (s.call i c).tasks.length := by
  rcases s.call_cases i c with ⟨-, hs⟩ | ⟨client, w, -, hs⟩
  · exact Nat.le_of_eq (by rw [hs])
  · simp [hs, apply, count]

structure Fresh (s : Tiers E Out L) (h : List (Called E Out)) : Prop where
  bounded : ∀ x ∈ h, x.task < s.tasks.length
  unmade : ∀ i w, s.Due i w → ¬ w.GoesOn → ∀ x ∈ h, x.task ≠ i

theorem Fresh.step {s : Tiers E Out L} {h : List (Called E Out)} (hf : Fresh s h)
    (e : Event E Out L) : Fresh (s.step e) (h ++ s.made e) := by
  cases e with
  | lose k =>
    rw [made, List.append_nil]
    exact ⟨hf.bounded, hf.unmade⟩
  | ask client r =>
    simp only [made, List.append_nil]
    refine ⟨fun x hx => ?_, fun i w hw hgo x hx => ?_⟩
    · have := hf.bounded x hx
      simp only [Tiers.step, ask_tasks, List.length_append]
      omega
    · rcases (due_ask ..).1 hw with hd | ⟨hi, -⟩
      · exact hf.unmade i w hd hgo x hx
      · exact hi ▸ Nat.ne_of_lt (hf.bounded x hx)
  | call i c =>
    have hle := s.length_tasks_call i c
    rcases s.call_cases i c with ⟨hno, hs⟩ | ⟨client, v, hv, hs⟩
    · rw [made_of_not_due hno, List.append_nil]
      simpa only [Tiers.step, hs] using hf
    · rw [made_of_due hv]
      have hx : ∀ x ∈ h ++ [⟨i, v, c⟩], x.task < s.tasks.length := by
        intro x hx
        rcases List.mem_append.1 hx with hx | hx
        · exact hf.bounded x hx
        · rw [List.mem_singleton.1 hx]
          exact hv.lt
      refine ⟨fun x hmem => Nat.lt_of_lt_of_le (hx x hmem) hle, fun j w hw hgo x hmem => ?_⟩
      simp only [Tiers.step, hs] at hw
      rcases (due_apply hv.lt j w).1 hw with ⟨-, hn⟩ | ⟨hj, hd⟩ | ⟨hj, -⟩
      · exact absurd ⟨v, Work.leadsTo_of_advance hn⟩ hgo
      · rcases List.mem_append.1 hmem with hmem | hmem
        · exact hf.unmade j w hd hgo x hmem
        · rw [List.mem_singleton.1 hmem]
          exact Ne.symm hj
      · exact Nat.ne_of_lt (Nat.lt_of_lt_of_le (hx x hmem) hj)

theorem Fresh.run {s : Tiers E Out L} {h : List (Called E Out)} (hf : Fresh s h)
    (events : List (Event E Out L)) : Fresh (s.run events) (h ++ s.calls events) := by
  induction events generalizing s h with
  | nil => simpa [Tiers.run, calls] using hf
  | cons e rest ih =>
    have := ih (hf.step e)
    rwa [List.append_assoc] at this

/-- A task that has its result makes no call. -/
theorem task_ne_of_result? {s : Tiers E Out L} {i : Nat} {r : Result (Answer E Out)}
    (h : s.result? i = some r) (events : List (Event E Out L)) :
    ∀ x ∈ s.calls events, x.task ≠ i := by
  induction events generalizing s with
  | nil => exact fun x hx => (nomatch hx)
  | cons e rest ih =>
    intro x hx
    rcases List.mem_append.1 hx with hx | hx
    · cases e with
      | ask client request => cases hx
      | lose k => cases hx
      | call j c =>
        obtain ⟨w, hw, rfl⟩ := List.mem_map.1 hx
        rintro rfl
        have hdue := work?_eq_some_iff.1 (Option.mem_toList.1 hw)
        simp [hdue.result?] at h
    · exact ih (result?_run [e] h) x hx

end Tiers

end CacheAside
