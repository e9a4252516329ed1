import CacheAside.Access.Work

set_option autoImplicit false

namespace CacheAside

variable {E Out : Type}

namespace Conduct

/-- The call reads what the tier really holds, or fails. -/
def Truthful : Conduct E → Prop
  | .answer _ => False
  | _ => True

end Conduct

namespace Work

def IsNotice : Work E Out → Prop
  | .notify .. => True
  | _ => False

variable [Entity E] (number : Nat) (listening : Bool) (map : EntryMap E) (store : RowStore E)
  {c : Conduct E} {k : Key} {e : E}

theorem advance_notice {w : Work E Out} (hw : w.IsNotice) :
    (w.advance number listening map store c).map = map ∧
      (w.advance number listening map store c).store = store ∧
      (w.advance number listening map store c).progress = .done (.ok .nothing) ∧
      (w.advance number listening map store c).spawned = [] := by
  cases w <;> first | exact ⟨rfl, rfl, rfl, rfl⟩ | exact hw.elim

theorem advance_readGrid (hc : c.Truthful) (parts : List KeyPart) :
    (∃ e, map.get? k = some e ∧
      advance number listening map store c (.readGrid k parts : Work E Out) =
        ⟨map, store, .done (.ok (.entity (some e))), [.gridGet, .hit, .find], [], none⟩) ∨
    advance number listening map store c (.readGrid k parts : Work E Out) =
      ⟨map, store, .next (.readStore k parts), [.gridGet], [], none⟩ := by
  cases c with
  | answer found => exact hc.elim
  | fail f => exact .inr rfl
  | crash text => exact .inr rfl
  | serve | refuse =>
    cases h : map.get? k with
    | none => exact .inr (by simp [advance, readAnswer, h])
    | some e => exact .inl ⟨e, rfl, by simp [advance, readAnswer, h]⟩

/-- A read of the store fails, or gives the stamped row and has the grid refilled with it. -/
theorem advance_readStore (hc : c.Truthful) {parts : List KeyPart}
    (hk : Key.derive parts = .ok k) :
    let m := advance number listening map store c (.readStore k parts : Work E Out)
    m.map = map ∧ m.store.rows = store.rows ∧
      ((∃ err, m.progress = .done (.error err) ∧ m.spawned = []) ∨
        m.progress = .done (.ok (.entity ((store.rows.get? k).map (Entity.stamp k)))) ∧
          m.spawned = ((store.rows.get? k).map fun e => .refill k (Entity.stamp k e)).toList) := by
  cases c with
  | answer found => exact hc.elim
  | fail f => exact ⟨rfl, rfl, .inl ⟨_, rfl, rfl⟩⟩
  | crash text => exact ⟨rfl, rfl, .inl ⟨_, rfl, rfl⟩⟩
  | serve | refuse =>
    cases h : store.rows.get? k <;>
      simp [advance, failure, RowStore.find, RowStore.peek, hk, h, afterStoreRead]

theorem advance_refill :
    let m := advance number listening map store c (.refill k e : Work E Out)
    (m.map = map ∨ m.map = (map.submit k (.insertIfAbsent e)).2) ∧ m.store = store ∧
      m.progress = .done (.ok .nothing) ∧ m.spawned = [] := by
  cases c <;> simp [advance, failure]

theorem advance_saveGrid :
    let m := advance number listening map store c (.saveGrid k e : Work E Out)
    m.store = store ∧ m.spawned = [] ∧
      ((∃ err, failure .grid c = some err ∧ m.progress = .done (.error err) ∧ m.map = map) ∨
        failure .grid c = none ∧ m.progress = .next (.saveStore k e) ∧
          m.map = (map.submit k (.replace e)).2) := by
  cases c <;> simp [advance, failure]

omit [Entity E] in
theorem spawned_afterStoreWrite (event : EntryEvent) (signal : Signal)
    (r : Except Fault Bool × RowStore E) :
    ∀ w ∈ (afterStoreWrite map number listening event signal e r : Move E Out).spawned,
      w.IsNotice := by
  obtain ⟨r, store⟩ := r
  cases r with
  | error f => simp [afterStoreWrite]
  | ok applied =>
    simp only [afterStoreWrite]
    split <;> simp [IsNotice]

theorem advance_saveStore (hc : c = .serve) (hk : Entity.key e = .ok k) :
    let m := advance number listening map store c (.saveStore k e : Work E Out)
    m.map = map ∧ m.store.rows = store.rows.insert k e ∧
      m.progress = .done (.ok (.applied true)) ∧ ∀ w ∈ m.spawned, w.IsNotice := by
  subst hc
  refine ⟨?_, ?_, ?_, spawned_afterStoreWrite number listening map .saved .save _⟩ <;>
    simp [advance, failure, RowStore.save, RowStore.keyOf, hk, afterStoreWrite]

theorem advance_removeGrid :
    let m := advance number listening map store c (.removeGrid k e : Work E Out)
    m.store = store ∧ m.spawned = [] ∧
      ((∃ err, m.progress = .done (.error err) ∧ m.map = map) ∨
        m.progress = .next (.removeStore k e) ∧ m.map = map.lose k) := by
  cases c <;> simp [advance, failure, EntryMap.remove]

/-- The second half of a removal: the row is gone if the store says so, else all rows are left. -/
theorem advance_removeStore (hk : Entity.key e = .ok k) :
    let m := advance number listening map store c (.removeStore k e : Work E Out)
    m.map = map ∧ (∀ w ∈ m.spawned, w.IsNotice) ∧
      (m.progress = .done (.ok (.applied true)) ∧ m.store.rows = store.rows.erase k ∨
        ((∃ err, m.progress = .done (.error err)) ∨ m.progress = .done (.ok (.applied false))) ∧
          ∀ l, m.store.rows.get? l = store.rows.get? l) := by
  cases c with
  | fail f => exact ⟨rfl, by simp [advance, failure], .inr ⟨.inl ⟨_, rfl⟩, fun _ => rfl⟩⟩
  | crash text => exact ⟨rfl, by simp [advance, failure], .inr ⟨.inl ⟨_, rfl⟩, fun _ => rfl⟩⟩
  | refuse =>
    exact ⟨rfl, spawned_afterStoreWrite number listening map .removed .remove _,
      .inr ⟨.inr rfl, fun _ => rfl⟩⟩
  | serve | answer =>
    refine ⟨?_, spawned_afterStoreWrite number listening map .removed .remove _, ?_⟩
    · simp [advance, failure, RowStore.remove, RowStore.keyOf, hk, afterStoreWrite]
    · simp only [advance, failure, RowStore.remove, RowStore.keyOf, hk, afterStoreWrite]
      cases h : store.rows.get? k with
      | some row => exact .inl ⟨by simp [Table.contains, h], trivial⟩
      | none =>
        refine .inr ⟨.inr (by simp [Table.contains, h]), fun l => ?_⟩
        by_cases hl : k = l <;> simp_all

theorem advance_scan (span : Span) :
    let m := advance number listening map store c (.scan span : Work E Out)
    m.map = map ∧ m.store.rows = store.rows ∧ m.spawned = [] ∧
      ((∃ a, m.progress = .done (.ok (.loaded a))) ∨
        m.progress = .next (.feed span (store.rowsIn span.start span.stop) 0)) := by
  cases c <;> simp [advance, RowStore.countLoad]

theorem advance_feed (span : Span) (rest : List E) (count : Nat) :
    let m := advance number listening map store c (.feed span rest count : Work E Out)
    m.store = store ∧ m.spawned = [] ∧
      ((∃ a, m.progress = .done (.ok (.loaded a))) ∧ m.map = map ∨
        ∃ row left key stamped, rest = row :: left ∧ stampedRow row = .ok (key, stamped) ∧
          m.progress = .next (.feed span left (count + 1)) ∧ m.map = map.put key stamped) := by
  cases rest with
  | nil => cases c <;> simp [advance]
  | cons row left =>
    cases c with
    | fail f => simp [advance]
    | crash text => simp [advance]
    | serve | refuse | answer =>
      cases h : stampedRow row with
      | error f => simp [advance, h]
      | ok p =>
        refine ⟨by simp [advance, h], by simp [advance, h], .inr ⟨row, left, p.1, p.2, rfl, h, ?_⟩⟩
        simp [advance, h]

end Work

end CacheAside
