import CacheAside.Proofs.Access.History

set_option autoImplicit false

namespace CacheAside

variable {E Out L : Type}

def CallPoint.isStore : CallPoint → Bool
  | .storeFind | .storeSave | .storeRemove | .storeLoad => true
  | .gridGet | .gridSubmit | .gridRemove | .gridPut | .listener => false

inductive StoreCall where
  | find
  | save
  | remove
  | load
  deriving DecidableEq

def CallCounts.of (n : CallCounts) : StoreCall → Nat
  | .find => n.finds
  | .save => n.saves
  | .remove => n.removes
  | .load => n.loads

namespace Work

/-- What the store is asked for, if the call gets to it. -/
def storeCall? : Conduct E → Work E Out → Option StoreCall
  | .serve, .readStore .. | .refuse, .readStore .. => some .find
  | .serve, .saveStore .. | .answer _, .saveStore .. => some .save
  | .serve, .removeStore .. | .answer _, .removeStore .. => some .remove
  | .serve, .scan _ | .refuse, .scan _ | .answer _, .scan _ => some .load
  | _, _ => none

theorem storeCall?_of_not_isStore {w : Work E Out} (h : w.point.isStore = false) (c : Conduct E) :
    w.storeCall? c = none := by
  cases w with
  | readStore | saveStore | removeStore | scan => cases h
  | _ => cases c <;> rfl

variable [Entity E] (number : Nat) (listening : Bool) (map : EntryMap E) (store : RowStore E)

@[simp] theorem store_afterStoreRead (k : Key) (r : Except Fault (Option E) × RowStore E) :
    (afterStoreRead map k r : Move E Out).store = r.2 := by
  obtain ⟨_ | _ | e, store⟩ := r <;> rfl

omit [Entity E] in
@[simp] theorem store_afterStoreWrite (event : EntryEvent) (signal : Signal) (e : E)
    (r : Except Fault Bool × RowStore E) :
    (afterStoreWrite map number listening event signal e r : Move E Out).store = r.2 := by
  obtain ⟨_ | applied, store⟩ := r <;> rfl

theorem store_advance {c : Conduct E} {w : Work E Out} (h : w.storeCall? c = none) :
    (w.advance number listening map store c).store = store := by
  cases w with
  | notify => rfl
  | readGrid k parts =>
    simp only [advance]
    split <;> rfl
  | execute k p =>
    cases c <;> simp only [advance, failure] <;> split <;> rfl
  | feed span rest count => exact (advance_feed number listening map store span rest count).1
  | refill | saveGrid | removeGrid => cases c <;> rfl
  | readStore | saveStore | removeStore | scan =>
    cases c <;> simp_all [storeCall?, advance, failure]

/-- A call that gets to the store is counted there, once and for what it asks. -/
theorem calls_advance (c : Conduct E) (w : Work E Out) (q : StoreCall) :
    (w.advance number listening map store c).store.calls.of q =
      store.calls.of q + if w.storeCall? c = some q then 1 else 0 := by
  cases hasked : w.storeCall? c with
  | none => simp [store_advance number listening map store hasked]
  | some asked =>
    have saved (e : E) : (store.save e).2.calls =
        { store.calls with saves := store.calls.saves + 1 } := by
      simp only [RowStore.save]
      split <;> rfl
    have removed (e : E) : (store.remove e).2.calls =
        { store.calls with removes := store.calls.removes + 1 } := by
      simp only [RowStore.remove]
      split <;> rfl
    cases w <;> cases c <;> cases hasked <;> cases q <;>
      simp [advance, failure, CallCounts.of, RowStore.find, saved, removed, RowStore.countLoad]

end Work

namespace Tiers

variable [Entity E]

theorem storeCalls_run (s : Tiers E Out L) (events : List (Event E Out L)) (q : StoreCall) :
    (s.run events).store.calls.of q = s.store.calls.of q +
      (s.calls events).countP fun x => x.work.storeCall? x.conduct = some q := by
  induction events generalizing s with
  | nil => rfl
  | cons ev rest ih =>
    have hstep : (s.step ev).store.calls.of q = s.store.calls.of q +
        (s.made ev).countP fun x => x.work.storeCall? x.conduct = some q := by
      cases ev with
      | ask client r => simp [step, made]
      | lose k => rfl
      | call i c =>
        rcases s.call_cases i c with ⟨hno, hcall⟩ | ⟨client, w, hw, hcall⟩
        · simp [step, hcall, made_of_not_due hno]
        · simp [step, hcall, made_of_due hw, Work.calls_advance, List.countP_cons]
    have hrun : s.run (ev :: rest) = (s.step ev).run rest := rfl
    rw [hrun, ih, hstep, calls, List.countP_append, Nat.add_assoc]

theorem store_call_of_not_isStore {s : Tiers E Out L} {i : Nat} {w : Work E Out} (hw : s.Due i w)
    (h : w.point.isStore = false) (c : Conduct E) : (s.call i c).store = s.store := by
  rcases s.call_cases i c with ⟨hno, -⟩ | ⟨client, v, hv, hcall⟩
  · exact absurd hw (hno w)
  · obtain rfl := hv.unique hw
    rw [hcall, apply_store, Work.store_advance _ _ _ _ (Work.storeCall?_of_not_isStore h c)]

end Tiers

end CacheAside
