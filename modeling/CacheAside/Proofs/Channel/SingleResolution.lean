import CacheAside.Channel
/-!
Channels resolve once. Whatever is done with the handles of any number of channels, in any order:
the first resolving call on a channel decides it and every later one learns that it came too late;
a completer knows whether there was one; and who polls gets what the first call passed, or learns
that no handle is left, or has to wait.

The invariant gives every channel in closed form: the first result that was passed to it, the
number of handles on its write side, and whether its read side is still there.
-/

set_option autoImplicit false

namespace CacheAside

def Polled.isReady {α : Type} : Polled α → Bool
  | .ready _ => true
  | .waiting | .gone => false

namespace Switchboard

variable {α : Type}

inductive Use (α : Type) where
  | openChannel (name : String)
  | clone (name copy : String)
  | intoCallbacks (name onSuccess onFailure : String)
  | complete (name : String) (result : Result α)
  | succeed (name : String) (value : α)
  | fail (name : String) (error : AccessError)
  | callSuccess (name : String) (value : α)
  | callFailure (name : String) (error : AccessError)
  | drop (role : WriterRole) (name : String)
  | isResolved (name : String)
  | poll (channel : Nat)
  | dropReader (channel : Nat)

inductive Reply (α : Type) where
  | nothing
  | absent
  | opened (channel : Nat)
  | flag (yes : Bool)
  | polled (shown : Polled α)

def replyFlag (b : Switchboard α) : Option (Bool × Switchboard α) → Reply α × Switchboard α
  | some (yes, b) => (.flag yes, b)
  | none => (.absent, b)

def replyNothing (b : Switchboard α) : Option (Switchboard α) → Reply α × Switchboard α
  | some b => (.nothing, b)
  | none => (.absent, b)

def use (b : Switchboard α) : Use α → Reply α × Switchboard α
  | .openChannel name => (.opened (b.openChannel name).1, (b.openChannel name).2)
  | .clone name copy => b.replyNothing (b.clone name copy)
  | .intoCallbacks name onSuccess onFailure =>
    b.replyNothing (b.intoCallbacks name onSuccess onFailure)
  | .complete name r => b.replyFlag (b.complete name r)
  | .succeed name value => b.replyFlag (b.succeed name value)
  | .fail name err => b.replyFlag (b.fail name err)
  | .callSuccess name value => b.replyFlag (b.call .onSuccess name (.ok value))
  | .callFailure name err => b.replyFlag (b.call .onFailure name (.error err))
  | .drop role name => (.nothing, b.dropHandle role name)
  | .isResolved name => (((b.isResolved name).map Reply.flag).getD .absent, b)
  | .poll i => (.polled (b.poll i).1, (b.poll i).2)
  | .dropReader i => (.flag (b.dropReader i).1, (b.dropReader i).2)

def run (b : Switchboard α) (us : List (Use α)) : Switchboard α :=
  us.foldl (fun b u => (b.use u).2) b

def attempt? (b : Switchboard α) : Use α → Option (Nat × Result α)
  | .complete name r => (b.completerOf name).map (·, r)
  | .succeed name value => (b.completerOf name).map (·, .ok value)
  | .fail name err => (b.completerOf name).map (·, .error err)
  | .callSuccess name value => (b.writers.get? (.onSuccess, name)).map (·, .ok value)
  | .callFailure name err => (b.writers.get? (.onFailure, name)).map (·, .error err)
  | _ => none

/-- What a use passes to a channel by a resolving call. -/
def passes (i : Nat) (b : Switchboard α) (u : Use α) : List (Result α) :=
  (((b.attempt? u).filter (·.1 = i)).map Prod.snd).toList

def passed (i : Nat) (b : Switchboard α) : List (Use α) → List (Result α)
  | [] => []
  | u :: rest => b.passes i u ++ (b.use u).2.passed i rest

def ends (i : Nat) (b : Switchboard α) : Use α → Bool
  | .poll j => j = i && (b.poll j).1.isReady
  | .dropReader j => j = i && (b.dropReader j).1
  | _ => false

def ended (i : Nat) (b : Switchboard α) : List (Use α) → Bool
  | [] => false
  | u :: rest => b.ends i u || (b.use u).2.ended i rest

/-! ### The state of the channels -/

/-- Every channel in closed form. Between the steps of one use, `owed` counts handles that a
channel knows of and that have no name yet. -/
structure Kept (b : Switchboard α) (owed : Nat → Nat) (passed : Nat → List (Result α))
    (ended : Nat → Bool) : Prop where
  channel : ∀ i, i < b.channels.length →
    b.channels[i]? = some ⟨(passed i).head?, b.writers.countOf i + owed i, !ended i⟩
  known : ∀ h i, b.writers.get? h = some i → i < b.channels.length
  unopened : ∀ i, b.channels.length ≤ i → passed i = [] ∧ ended i = false

abbrev Settled (b : Switchboard α) (passed : Nat → List (Result α)) (ended : Nat → Bool) : Prop :=
  b.Kept (fun _ => 0) passed ended

variable {b : Switchboard α} {owed : Nat → Nat} {passed : Nat → List (Result α)}
  {ended : Nat → Bool} {role : WriterRole} {name : String} {i : Nat}

@[simp] theorem length_channels_modify (b : Switchboard α) (i : Nat) (f : Channel α → Channel α) :
    (b.modify i f).channels.length = b.channels.length := by
  simp [modify]

theorem Kept.addWriter (h : b.Kept owed passed ended) (i : Nat) :
    (b.modify i Channel.addWriter).Kept (fun j => owed j + if i = j then 1 else 0) passed
      ended := by
  refine ⟨fun j hj => ?_, fun w j hw => ?_, fun j hj => h.unopened j (by simpa using hj)⟩
  · rw [length_channels_modify] at hj
    simp only [modify, List.getElem?_modify, h.channel j hj]
    by_cases hij : i = j
    · simp [hij, Channel.addWriter, Nat.add_assoc]
    · simp [hij]
  · rw [length_channels_modify]
    exact h.known w j hw

theorem Kept.dropHandle (h : b.Kept owed passed ended) (role : WriterRole) (name : String) :
    (b.dropHandle role name).Kept owed passed ended := by
  unfold Switchboard.dropHandle
  split
  · exact h
  · rename_i i hi
    refine ⟨fun j hj => ?_, fun w j hw => ?_, fun j hj => h.unopened j (by simpa using hj)⟩
    · have hj : j < b.channels.length := by simpa using hj
      have hcount := Table.countOf_erase hi j
      simp only [modify, List.getElem?_modify, h.channel j hj]
      by_cases hij : i = j
      · simp only [hij, if_true] at hcount ⊢
        simp [Channel.dropWriter]
        omega
      · simp only [hij, if_false, Nat.add_zero] at hcount ⊢
        simp [hcount]
    · have hw : b.writers.get? w = some j := by
        simp only [Table.get?_erase] at hw
        split at hw
        · cases hw
        · exact hw
      simpa using h.known w j hw

theorem Kept.nameHandle (h : b.Kept (fun j => owed j + if i = j then 1 else 0) passed ended)
    (hi : i < b.channels.length) (hfree : b.writers.get? (role, name) = none) :
    Kept { b with writers := b.writers.insert (role, name) i } owed passed ended := by
  refine ⟨fun j hj => ?_, fun w j hw => ?_, h.unopened⟩
  · have hcount := Table.countOf_insert hfree i j
    rw [h.channel j hj, hcount]
    simp
    omega
  · simp only [Table.get?_insert] at hw
    split at hw
    · cases hw
      exact hi
    · exact h.known w j hw

theorem get?_dropHandle (b : Switchboard α) (role : WriterRole) (name : String) :
    (b.dropHandle role name).writers.get? (role, name) = none := by
  unfold dropHandle
  split
  · assumption
  · simp

theorem length_dropHandle (b : Switchboard α) (role : WriterRole) (name : String) :
    (b.dropHandle role name).channels.length = b.channels.length := by
  unfold dropHandle
  split <;> simp

theorem Kept.addHandle (h : b.Kept owed passed ended) (hi : i < b.channels.length)
    (role : WriterRole) (name : String) : (b.addHandle role name i).Kept owed passed ended :=
  ((h.addWriter i).dropHandle role name).nameHandle (by simpa [length_dropHandle] using hi)
    (get?_dropHandle ..)

theorem length_addHandle (b : Switchboard α) (role : WriterRole) (name : String) (i : Nat) :
    (b.addHandle role name i).channels.length = b.channels.length := by
  simp [Switchboard.addHandle, length_dropHandle]

theorem Kept.openChannel (h : b.Settled passed ended) (name : String) :
    (b.openChannel name).2.Settled passed ended := by
  let fresh : Switchboard α :=
    { b with channels := b.channels ++ [{ Channel.opened with writers := 0 }] }
  have hlen : fresh.channels.length = b.channels.length + 1 := by simp [fresh]
  have hnew : b.writers.countOf b.channels.length = 0 := by
    rw [Table.countOf_eq_zero_iff]
    exact fun w hw => Nat.lt_irrefl _ (h.known w _ hw)
  have kept : fresh.Settled passed ended := by
    refine ⟨fun j hj => ?_, fun w j hw => ?_, fun j hj => h.unopened j (by omega)⟩
    · rcases Nat.lt_or_ge j b.channels.length with hj' | hj'
      · rw [List.getElem?_append_left hj']
        exact h.channel j hj'
      · obtain rfl : j = b.channels.length := by omega
        obtain ⟨hp, he⟩ := h.unopened _ (Nat.le_refl _)
        simp [fresh, hp, he, hnew, Channel.opened]
    · have := h.known w j hw
      omega
  exact kept.addHandle (by omega) .completer name

/-- A result is passed to a channel: the first one stays. -/
theorem Kept.resolve (h : b.Kept owed passed ended) {c : Channel α} (hc : b.channels[i]? = some c)
    (r : Result α) :
    (b.modify i fun _ => (c.resolve r).2).Kept owed
      (fun j => passed j ++ if i = j then [r] else []) ended := by
  have hi := (List.getElem?_eq_some_iff.1 hc).1
  refine ⟨fun j hj => ?_, fun w j hw => ?_, fun j hj => ?_⟩
  · rw [length_channels_modify] at hj
    simp only [modify, List.getElem?_modify, h.channel j hj]
    by_cases hij : i = j
    · subst hij
      rw [h.channel i hi, Option.some.injEq] at hc
      subst hc
      cases hp : passed i <;> simp [Channel.resolve, Channel.isResolved]
    · simp [hij]
  · rw [length_channels_modify]
    exact h.known w j hw
  · rw [length_channels_modify] at hj
    have hij : i ≠ j := by omega
    simpa [hij] using h.unopened j hj

theorem Kept.endReading (h : b.Kept owed passed ended) (hi : i < b.channels.length) :
    (b.modify i Channel.dropReader).Kept owed passed (fun j => ended j || decide (i = j)) := by
  refine ⟨fun j hj => ?_, fun w j hw => ?_, fun j hj => ?_⟩
  · rw [length_channels_modify] at hj
    simp only [modify, List.getElem?_modify, h.channel j hj]
    by_cases hij : i = j
    · simp [hij, Channel.dropReader]
    · simp [hij]
  · rw [length_channels_modify]
    exact h.known w j hw
  · rw [length_channels_modify] at hj
    have hij : i ≠ j := by omega
    simpa [hij] using h.unopened j hj

theorem Kept.poll_eq (h : b.Settled passed ended) (hi : i < b.channels.length) :
    b.poll i = if ended i then (.gone, b) else
      match passed i with
      | r :: _ => (.ready r, b.modify i Channel.dropReader)
      | [] =>
        if b.writers.countOf i = 0 then (.ready (.error .abandoned), b.modify i Channel.dropReader)
        else (.waiting, b) := by
  cases he : ended i <;> cases hp : passed i <;>
    simp only [poll, h.channel i hi, Channel.outcome?, he, hp, List.head?_nil, List.head?_cons,
      Bool.not_true, Bool.not_false, if_true, if_false, Nat.add_zero, Bool.false_eq_true]
  by_cases hn : b.writers.countOf i = 0 <;> simp [hn]

theorem poll_snd (b : Switchboard α) (i : Nat) :
    (b.poll i).2 = if (b.poll i).1.isReady then b.modify i Channel.dropReader else b := by
  unfold poll
  cases b.channels[i]? with
  | none => rfl
  | some c =>
    simp only
    split
    · cases c.outcome? <;> rfl
    · rfl

theorem lt_of_isReady (h : (b.poll i).1.isReady = true) : i < b.channels.length := by
  rcases Nat.lt_or_ge i b.channels.length with hi | hi
  · exact hi
  · simp [poll, List.getElem?_eq_none hi, Polled.isReady] at h

/-! ### One use -/

theorem Kept.congr {passed' : Nat → List (Result α)} {ended' : Nat → Bool}
    (h : b.Settled passed ended) (hp : ∀ i, passed' i = passed i) (he : ∀ i, ended' i = ended i) :
    b.Settled passed' ended' := by
  rwa [funext hp, funext he]

section Attempt

variable {u : Use α} {r : Result α}

theorem use_of_attempt (hu : b.attempt? u = some (i, r)) :
    (∃ name, b.completerOf name = some i ∧ b.use u = b.replyFlag (b.complete name r)) ∨
      ∃ role name, b.writers.get? (role, name) = some i ∧
        b.use u = b.replyFlag (b.call role name r) := by
  cases u with
  | complete name r' | succeed name value | fail name err =>
    obtain ⟨j, hn, hj⟩ := Option.map_eq_some_iff.1 hu
    cases hj
    exact .inl ⟨name, hn, rfl⟩
  | callSuccess name value =>
    obtain ⟨j, hn, hj⟩ := Option.map_eq_some_iff.1 hu
    cases hj
    exact .inr ⟨.onSuccess, name, hn, rfl⟩
  | callFailure name err =>
    obtain ⟨j, hn, hj⟩ := Option.map_eq_some_iff.1 hu
    cases hj
    exact .inr ⟨.onFailure, name, hn, rfl⟩
  | openChannel | clone | intoCallbacks | drop | isResolved | poll | dropReader => cases hu

theorem use_of_completer {c : Channel α} (hn : b.completerOf name = some i)
    (hc : b.channels[i]? = some c) (r : Result α) :
    b.replyFlag (b.complete name r) =
      (.flag (c.resolve r).1, b.modify i fun _ => (c.resolve r).2) := by
  simp [complete, hn, hc, replyFlag]

theorem use_of_callback {c : Channel α} (hn : b.writers.get? (role, name) = some i)
    (hc : b.channels[i]? = some c) (r : Result α) :
    b.replyFlag (b.call role name r) =
      (.flag (c.resolve r).1, (b.modify i fun _ => (c.resolve r).2).dropHandle role name) := by
  simp [call, hn, hc, replyFlag]

theorem use_of_no_completer (hn : b.completerOf name = none) (r : Result α) :
    b.replyFlag (b.complete name r) = (.absent, b) := by
  simp [complete, hn, replyFlag]

theorem use_of_no_callback (hn : b.writers.get? (role, name) = none) (r : Result α) :
    b.replyFlag (b.call role name r) = (.absent, b) := by
  simp [call, hn, replyFlag]

/-- A resolving call learns whether it is the first, and what it passes is entered. -/
theorem Kept.attempt (h : b.Settled passed ended) (hu : b.attempt? u = some (i, r)) :
    (b.use u).1 = .flag (passed i).isEmpty ∧
      (b.use u).2.Settled (fun j => passed j ++ if i = j then [r] else []) ended := by
  have first {c : Channel α} (hc : c.resolution? = (passed i).head?) :
      (c.resolve r).1 = (passed i).isEmpty := by
    cases hp : passed i <;> simp [Channel.resolve, Channel.isResolved, hc, hp]
  rcases use_of_attempt hu with ⟨name, hn, huse⟩ | ⟨role, name, hn, huse⟩
  · have hc := h.channel i (h.known _ i hn)
    rw [huse, use_of_completer hn hc]
    exact ⟨congrArg Reply.flag (first rfl), h.resolve hc r⟩
  · have hc := h.channel i (h.known _ i hn)
    rw [huse, use_of_callback hn hc]
    exact ⟨congrArg Reply.flag (first rfl), (h.resolve hc r).dropHandle role name⟩

theorem passes_of_attempt (hu : b.attempt? u = some (i, r)) (j : Nat) :
    b.passes j u = if i = j then [r] else [] := by
  by_cases hij : i = j <;> simp [passes, hu, hij]

theorem ends_of_attempt (hu : b.attempt? u = some (i, r)) (j : Nat) : b.ends j u = false := by
  cases u with
  | poll | dropReader => cases hu
  | _ => rfl

end Attempt

theorem Kept.inert {b' : Switchboard α} (h : b'.Settled passed ended) {u : Use α}
    (hu : b.attempt? u = none) (he : ∀ i, b.ends i u = false) :
    b'.Settled (fun i => passed i ++ b.passes i u) (fun i => ended i || b.ends i u) :=
  h.congr (fun i => by simp [passes, hu]) (fun i => by simp [he])

theorem Kept.poll (h : b.Settled passed ended) (i : Nat) :
    (b.poll i).2.Settled passed (fun j => ended j || b.ends j (.poll i)) := by
  rw [poll_snd]
  cases hr : (b.poll i).1.isReady with
  | false => exact h.congr (fun _ => rfl) fun j => by simp [ends, hr]
  | true => exact (h.endReading (lt_of_isReady hr)).congr (fun _ => rfl) fun j => by simp [ends, hr]

theorem Kept.dropReader (h : b.Settled passed ended) (i : Nat) :
    (b.dropReader i).2.Settled passed (fun j => ended j || b.ends j (.dropReader i)) := by
  rcases Nat.lt_or_ge i b.channels.length with hi | hi
  · have hr : b.isReading i = !ended i := by simp [isReading, h.channel i hi]
    refine (h.endReading hi).congr (fun _ => rfl) fun j => ?_
    by_cases hij : i = j
    · subst hij
      simp [ends, Switchboard.dropReader, hr]
    · simp [ends, hij]
  · have hr : b.isReading i = false := by simp [isReading, List.getElem?_eq_none hi]
    have hb : (b.dropReader i).2 = b := by
      simp [Switchboard.dropReader, modify, List.modify_eq_self hi]
    rw [hb]
    exact h.congr (fun _ => rfl) fun j => by simp [ends, Switchboard.dropReader, hr]

theorem Kept.use (h : b.Settled passed ended) (u : Use α) :
    (b.use u).2.Settled (fun i => passed i ++ b.passes i u) (fun i => ended i || b.ends i u) := by
  cases hu : b.attempt? u with
  | some p =>
    exact (h.attempt hu).2.congr (fun j => by rw [passes_of_attempt hu])
      fun j => by rw [ends_of_attempt hu, Bool.or_false]
  | none =>
    cases u with
    | openChannel name => exact (h.openChannel name).inert rfl fun _ => rfl
    | clone name copy =>
      cases hn : b.completerOf name with
      | none =>
        simp only [Switchboard.use, clone, hn, Option.map_none, replyNothing]
        exact h.inert hu fun _ => rfl
      | some i =>
        simp only [Switchboard.use, clone, hn, Option.map_some, replyNothing]
        exact (h.addHandle (h.known _ i hn) .completer copy).inert hu fun _ => rfl
    | intoCallbacks name onSuccess onFailure =>
      cases hn : b.completerOf name with
      | none =>
        simp only [Switchboard.use, intoCallbacks, hn, Option.map_none, replyNothing]
        exact h.inert hu fun _ => rfl
      | some i =>
        have hi := h.known _ i hn
        simp only [Switchboard.use, intoCallbacks, hn, Option.map_some, replyNothing]
        have both := (h.addHandle hi .onSuccess onSuccess).addHandle (by rwa [length_addHandle])
          .onFailure onFailure
        exact (both.dropHandle .completer name).inert hu fun _ => rfl
    | complete name r | succeed name value | fail name err =>
      have hb := use_of_no_completer (Option.map_eq_none_iff.1 hu)
      simp only [Switchboard.use, succeed, fail, hb]
      exact h.inert hu fun _ => rfl
    | callSuccess name value | callFailure name err =>
      have hb := use_of_no_callback (Option.map_eq_none_iff.1 hu)
      simp only [Switchboard.use, hb]
      exact h.inert hu fun _ => rfl
    | drop role name => exact (h.dropHandle role name).inert hu fun _ => rfl
    | isResolved name => exact h.inert hu fun _ => rfl
    | poll i => exact (h.poll i).congr (fun j => by simp [passes, hu]) fun _ => rfl
    | dropReader i => exact (h.dropReader i).congr (fun j => by simp [passes, hu]) fun _ => rfl

/-! ### Runs -/

theorem Kept.run (h : b.Settled passed ended) (us : List (Use α)) :
    (b.run us).Settled (fun i => passed i ++ b.passed i us) (fun i => ended i || b.ended i us) := by
  induction us generalizing b passed ended with
  | nil =>
    exact h.congr (fun i => by simp [Switchboard.passed]) fun i => by simp [Switchboard.ended]
  | cons u rest ih =>
    exact (ih (h.use u)).congr (fun i => by simp [Switchboard.passed])
      fun i => by simp [Switchboard.ended, Bool.or_assoc]

theorem settled_empty : (empty : Switchboard α).Settled (fun _ => []) (fun _ => false) :=
  ⟨fun _ hi => absurd hi (Nat.not_lt_zero _), fun _ _ h => (nomatch h), fun _ _ => ⟨rfl, rfl⟩⟩

theorem settled_run (us : List (Use α)) :
    ((empty : Switchboard α).run us).Settled (fun i => empty.passed i us)
      (fun i => empty.ended i us) :=
  (settled_empty.run us).congr (fun i => by simp) fun i => by simp

/-- At every point of every run: a resolving call is told whether it is the first on its channel,
a completer whether there was one, and an open read side shows what the first one passed, else
that no handle is left, else nothing yet. -/
theorem first_resolution_decides (us : List (Use α)) (i : Nat) :
    let b := (empty : Switchboard α).run us
    let passed := (empty : Switchboard α).passed i us
    (∀ u r, b.attempt? u = some (i, r) → (b.use u).1 = .flag passed.isEmpty) ∧
      (∀ name, b.completerOf name = some i →
        (b.use (.isResolved name)).1 = .flag (!passed.isEmpty)) ∧
      (i < b.channels.length → (empty : Switchboard α).ended i us = false →
        (∀ r later, passed = r :: later → (b.use (.poll i)).1 = .polled (.ready r)) ∧
        (passed = [] → (∀ h, b.writers.get? h ≠ some i) →
          (b.use (.poll i)).1 = .polled (.ready (.error .abandoned))) ∧
        (passed = [] → ∀ h, b.writers.get? h = some i →
          (b.use (.poll i)).1 = .polled .waiting)) := by
  intro b passed
  have settled : b.Settled (fun i => empty.passed i us) (fun i => empty.ended i us) :=
    settled_run us
  refine ⟨fun u r hu => (settled.attempt hu).1, fun name hn => ?_, fun hi he => ?_⟩
  · have hc := settled.channel i (settled.known _ i hn)
    cases hp : passed <;>
      simp_all [use, isResolved, Channel.isResolved, passed]
  · have hpoll := settled.poll_eq hi
    simp only [he, Bool.false_eq_true, if_false] at hpoll
    refine ⟨fun r later hp => ?_, fun hp hnone => ?_, fun hp w hw => ?_⟩
    · have hp : empty.passed i us = r :: later := hp
      simp [use, hpoll, hp]
    · have hp : empty.passed i us = [] := hp
      have hcount := (b.writers.countOf_eq_zero_iff i).2 hnone
      simp [use, hpoll, hp, hcount]
    · have hp : empty.passed i us = [] := hp
      have hcount : b.writers.countOf i ≠ 0 := fun h0 =>
        (b.writers.countOf_eq_zero_iff i).1 h0 w hw
      simp [use, hpoll, hp, hcount]

namespace Shared

def uses : List (Use Nat) :=
  [.openChannel "a", .clone "a" "b", .intoCallbacks "b" "done" "failed"]

def boom : AccessError :=
  .tier .store (.ofText "boom")

def late : List (Use Nat) :=
  uses ++ [.dropReader 0, .callFailure "failed" boom]

def failed : List (Use Nat) :=
  uses ++ [.callFailure "failed" boom, .drop .completer "a"]

def left : List (Use Nat) :=
  uses ++ [.drop .completer "a", .drop .onSuccess "done", .drop .onFailure "failed"]

def after (us : List (Use Nat)) (u : Use Nat) : Reply Nat :=
  ((empty.run us).use u).1

theorem told_and_read :
    after late (.callSuccess "done" 7) = .flag false ∧
      after late (.isResolved "a") = .flag true ∧
      after failed (.poll 0) = .polled (.ready (.error boom)) ∧
      after left (.poll 0) = .polled (.ready (.error .abandoned)) ∧
      after uses (.poll 0) = .polled .waiting := by
  obtain ⟨told, known, -⟩ := first_resolution_decides late 0
  obtain ⟨-, -, read⟩ := first_resolution_decides failed 0
  obtain ⟨-, -, readLeft⟩ := first_resolution_decides left 0
  obtain ⟨-, -, readHeld⟩ := first_resolution_decides uses 0
  refine ⟨told (.callSuccess "done" 7) (.ok 7) rfl, known "a" rfl, ?_, ?_, ?_⟩
  · exact (read Nat.one_pos rfl).1 (.error boom) [] rfl
  · exact (readLeft Nat.one_pos rfl).2.1 rfl fun h hh => nomatch hh
  · exact (readHeld Nat.one_pos rfl).2.2 rfl (.completer, "a") rfl

end Shared

end Switchboard

end CacheAside
