import CacheAside.Proofs.Access.Ledger
/-!
The cache cannot be told from a plain table. When operations run one after the other, every result
of a find is what the ledger of the applied writes holds under the derived key, however often the
grid fails or loses entries and however often the store fails to read, to delete or to load.

Each kind of operation has an invariant of its own, which says for every task that may be due what
it may still do; outside of an operation the rows are filed and the entries cached.
-/

set_option autoImplicit false

namespace CacheAside

variable {E Out L : Type}

/-- Any call may fail or crash without effect, but for the store's part of a save. -/
def steady : Climate E Out where
  asks _ := False
  meets
    | .saveStore _ _, c => c = .serve
    | _, c => c.Truthful
  loses := True

variable [Entity E] {l : Ledger E} {s : Tiers E Out L} {i n : Nat} {k : Key}

/-! ### At rest -/

/-- Both tiers agree with the ledger, nothing but notices is due, and task `n` is not. -/
structure Resting (l : Ledger E) (n : Nat) (r : Option (Result (Answer E Out)))
    (s : Tiers E Out L) : Prop where
  filed : Filed l s.store
  cached : Cached l s.map
  settled : s.Settled
  result : s.result? n = r
  idle : ∀ w, ¬ s.Due n w

theorem Resting.step {r : Option (Result (Answer E Out))} (s : Tiers E Out L)
    (e : Event E Out L) (h : Resting l n r s) (hp : s.Permits steady e) :
    Resting l n r (s.step e) := by
  cases e with
  | ask client request => exact hp.elim
  | lose k => exact ⟨h.filed, h.cached.lose k, h.settled, h.result, h.idle⟩
  | call i c =>
    rcases s.call_cases i c with ⟨-, hs⟩ | ⟨client, w, hw, hs⟩
    · simpa only [Tiers.step, hs] using h
    · have hv := h.settled i w hw
      have hin : n ≠ i := by
        rintro rfl
        exact h.idle w hw
      simp only [Tiers.step, hs]
      refine ⟨?_, ?_, h.settled.apply_notice hw _ c, ?_, fun v hd => ?_⟩
      · rw [Tiers.apply_notice_store hv]
        exact h.filed
      · rw [Tiers.apply_notice_map hv]
        exact h.cached
      · rw [Tiers.result?_apply hw.lt, if_neg hin, h.result]
      · exact h.idle v ((Tiers.due_apply_notice hw hv ..).1 hd).2

/-! ### Finding -/

structure Finding (l : Ledger E) (k : Key) (parts : List KeyPart) (n : Nat)
    (s : Tiers E Out L) : Prop where
  filed : Filed l s.store
  cached : Cached l s.map
  due : ∀ j w, s.Due j w → w.IsNotice ∨ w = .readGrid k parts ∨ w = .readStore k parts ∨
    ∃ e, w = .refill k e ∧ l.get? k = some e
  answer : ∀ found, s.result? n = some (.ok (.entity found)) → found = l.get? k

theorem Finding.apply {parts : List KeyPart} {client : Client L} {m : Move E Out}
    (h : Finding l k parts n s) (hi : i < s.tasks.length) (hstore : Filed l m.store)
    (hmap : Cached l m.map)
    (hnext : ∀ w, m.progress = .next w → w = .readStore k parts)
    (hdone : ∀ found, m.progress = .done (.ok (.entity found)) → found = l.get? k)
    (hsp : ∀ w ∈ m.spawned, ∃ e, w = .refill k e ∧ l.get? k = some e) :
    Finding l k parts n (s.apply i client m) := by
  refine ⟨hstore, hmap, Tiers.due_of_apply h.due hi ?_ ?_, fun found hf => ?_⟩
  · exact fun w hw => .inr (.inr (.inl (hnext w hw)))
  · exact fun w hw => .inr (.inr (.inr (hsp w hw)))
  · rw [Tiers.result?_apply hi] at hf
    split at hf
    · cases hp : m.progress with
      | next w => simp [Task.result?, hp] at hf
      | done r => exact hdone found (by simpa [Task.result?, hp] using hf)
    · exact h.answer found hf

theorem Finding.step {parts : List KeyPart} (hk : Key.derive parts = .ok k)
    (s : Tiers E Out L) (e : Event E Out L) (h : Finding l k parts n s)
    (hp : s.Permits steady e) : Finding l k parts n (s.step e) := by
  cases e with
  | ask client request => exact hp.elim
  | lose m => exact ⟨h.filed, h.cached.lose m, h.due, h.answer⟩
  | call i c =>
    rcases s.call_cases i c with ⟨-, hs⟩ | ⟨client, w, hw, hs⟩
    · simpa only [Tiers.step, hs] using h
    · simp only [Tiers.step, hs]
      have hc := hp w hw
      rcases h.due i w hw with hv | rfl | rfl | ⟨e, rfl, he⟩
      · obtain ⟨hmap, hstore, hprog, hsp⟩ :=
          Work.advance_notice i client.listener.isSome s.map s.store (c := c) hv
        refine h.apply hw.lt (hstore.symm ▸ h.filed) (hmap.symm ▸ h.cached) ?_ ?_ ?_ <;>
          simp [hprog, hsp]
      · rcases Work.advance_readGrid i client.listener.isSome s.map s.store hc parts
          with ⟨e, he, hm⟩ | hm
        · rw [hm]
          refine h.apply hw.lt h.filed h.cached ?_ ?_ ?_ <;> simp [h.cached.agrees k e he]
        · rw [hm]
          refine h.apply hw.lt h.filed h.cached ?_ ?_ ?_ <;> simp
      · obtain ⟨hmap, hrows, hend⟩ :=
          Work.advance_readStore i client.listener.isSome s.map s.store hc hk
        have hfiled := h.filed.congr fun m => congrArg (Table.get? · m) hrows
        have hcached := hmap.symm ▸ h.cached
        rcases hend with ⟨err, hprog, hsp⟩ | ⟨hprog, hsp⟩
        · refine h.apply hw.lt hfiled hcached ?_ ?_ ?_ <;> simp [hprog, hsp]
        · refine h.apply hw.lt hfiled hcached ?_ ?_ fun v hv => ?_
          · simp [hprog]
          · simp [hprog, h.filed.rows k]
          · rw [hsp, Option.mem_toList, Option.map_eq_some_iff] at hv
            obtain ⟨e, he, rfl⟩ := hv
            exact ⟨_, rfl, h.filed.get?_eq he⟩
      · obtain ⟨hmap, hstore, hprog, hsp⟩ :=
          Work.advance_refill i client.listener.isSome s.map s.store (c := c) (k := k) (e := e)
        refine h.apply hw.lt (hstore.symm ▸ h.filed) ?_ ?_ ?_ ?_
        · rcases hmap with hmap | hmap
          · exact (hmap.symm ▸ h.cached :)
          · exact (hmap.symm ▸ h.cached.refill he :)
        all_goals simp [hprog, hsp]

/-! ### Writing -/

/-- The two calls of a write. The grid takes its part or nothing happens; once it has, the store
applies its part or leaves its rows, and says which. -/
structure TwoCalls (l after : Ledger E) (first second : Work E Out) : Prop where
  grid : ∀ (n : Nat) (listening : Bool) (map : EntryMap E) (store : RowStore E) (c : Conduct E),
    steady.meets first c → Cached l map →
    let m := first.advance n listening map store c
    m.store = store ∧ m.spawned = [] ∧
      ((∃ err, m.progress = .done (.error err)) ∧ m.map = map ∨
        m.progress = .next second ∧ Cached after m.map)
  store : ∀ (n : Nat) (listening : Bool) (map : EntryMap E) (store : RowStore E) (c : Conduct E),
    steady.meets second c → Cached after map → Filed l store →
    let m := second.advance n listening map store c
    m.map = map ∧ (∀ w ∈ m.spawned, w.IsNotice) ∧
      (m.progress = .done (.ok (.applied true)) ∧ Filed after m.store ∨
        ((∃ err, m.progress = .done (.error err)) ∨ m.progress = .done (.ok (.applied false))) ∧
          Filed l m.store ∧ Cached l map)

inductive Writing (l after : Ledger E) (n : Nat) (first second : Work E Out)
    (s : Tiers E Out L) : Prop
  | grid (filed : Filed l s.store) (cached : Cached l s.map) (alone : s.Alone n first)
  | store (filed : Filed l s.store) (cached : Cached after s.map) (alone : s.Alone n second)
  | ended (r : Option (Result (Answer E Out)))
    (rest : Resting (if granted r then after else l) n r s)

theorem Resting.of_apply {after : Ledger E} {client : Client L} {m : Move E Out} {w : Work E Out}
    {r : Result (Answer E Out)} (alone : s.Alone n w) (hr : m.progress = .done r)
    (hsp : ∀ w ∈ m.spawned, w.IsNotice) (filed : Filed after m.store)
    (cached : Cached after m.map) : Resting after n (some r) (s.apply n client m) := by
  have hn := alone.due.lt
  have hresult : (s.apply n client m).result? n = some r := by
    simp [Tiers.result?_apply hn, Task.result?, hr]
  refine ⟨filed, cached, ?_, hresult, fun w hw => ?_⟩
  · exact Tiers.Settled.of_apply alone.rest hn (by simp [hr]) hsp
  · simp [hw.result?] at hresult

theorem Writing.step {after : Ledger E} {first second : Work E Out}
    (law : TwoCalls l after first second) (s : Tiers E Out L) (e : Event E Out L)
    (h : Writing l after n first second s) (hp : s.Permits steady e) :
    Writing l after n first second (s.step e) := by
  cases e with
  | ask client request => exact hp.elim
  | lose m =>
    cases h with
    | grid filed cached alone => exact .grid filed (cached.lose m) ⟨alone.due, alone.rest⟩
    | store filed cached alone => exact .store filed (cached.lose m) ⟨alone.due, alone.rest⟩
    | ended r rest => exact .ended r (rest.step s _ hp)
  | call i c =>
    rcases s.call_cases i c with ⟨-, hs⟩ | ⟨client, w, hw, hs⟩
    · simpa only [Tiers.step, hs] using h
    · cases h with
      | ended r rest => exact .ended r (rest.step s _ hp)
      | grid filed cached alone =>
        simp only [Tiers.step, hs]
        rcases alone.due_cases hw with ⟨rfl, rfl⟩ | ⟨hin, hv⟩
        · obtain ⟨hstore, hsp, ⟨⟨err, hprog⟩, hmap⟩ | ⟨hprog, hcached⟩⟩ :=
            law.grid i client.listener.isSome s.map s.store c (hp _ hw) cached
          · refine .ended (some (.error err)) (.of_apply alone hprog (by simp [hsp]) ?_ ?_)
            · rw [hstore]
              exact filed
            · rw [hmap]
              exact cached
          · refine .store ?_ hcached (alone.of_apply hprog hsp)
            rw [Tiers.apply_store, hstore]
            exact filed
        · refine .grid ?_ ?_ (alone.apply_notice hin hw hv _ c)
          · rw [Tiers.apply_notice_store hv]
            exact filed
          · rw [Tiers.apply_notice_map hv]
            exact cached
      | store filed cached alone =>
        simp only [Tiers.step, hs]
        rcases alone.due_cases hw with ⟨rfl, rfl⟩ | ⟨hin, hv⟩
        · obtain ⟨hmap, hsp, hend⟩ :=
            law.store i client.listener.isSome s.map s.store c (hp _ hw) cached filed
          rcases hend with ⟨hprog, hfiled⟩ | ⟨⟨err, hprog⟩ | hprog, hfiled, hcached⟩
          · exact .ended _ (.of_apply alone hprog hsp hfiled (by rwa [hmap]))
          · exact .ended _ (.of_apply alone hprog hsp hfiled (by rwa [hmap]))
          · exact .ended _ (.of_apply alone hprog hsp hfiled (by rwa [hmap]))
        · refine .store ?_ ?_ (alone.apply_notice hin hw hv _ c)
          · rw [Tiers.apply_notice_store hv]
            exact filed
          · rw [Tiers.apply_notice_map hv]
            exact cached

variable [LawfulEntity E]

theorem twoCalls_save (l : Ledger E) (k : Key) (e : E) :
    TwoCalls l (l.insert k (Entity.stamp k e)) (.saveGrid k (Entity.stamp k e) : Work E Out)
      (.saveStore k (Entity.stamp k e)) := by
  refine ⟨fun n listening map store c _ hcached => ?_,
    fun n listening map store c hc hcached hfiled => ?_⟩
  · obtain ⟨hstore, hsp, ⟨err, -, hprog, hmap⟩ | ⟨-, hprog, hmap⟩⟩ :=
      Work.advance_saveGrid n listening map store (c := c) (k := k) (e := Entity.stamp k e)
    · exact ⟨hstore, hsp, .inl ⟨⟨err, hprog⟩, hmap⟩⟩
    · refine ⟨hstore, hsp, .inr ⟨hprog, ?_⟩⟩
      rw [hmap]
      exact hcached.enter k (Entity.stamp k e)
  · have hk := Entity.key_stamp k e
    obtain ⟨hmap, hrows, hprog, hsp⟩ := Work.advance_saveStore n listening map store hc hk
    refine ⟨hmap, hsp, .inl ⟨hprog, ?_⟩⟩
    have := hfiled.enter hk hrows
    rwa [LawfulEntity.stamp_stamp] at this

omit [LawfulEntity E] in
theorem twoCalls_remove (l : Ledger E) {k : Key} {e : E} (hk : Entity.key e = .ok k) :
    TwoCalls l (l.erase k) (.removeGrid k e : Work E Out) (.removeStore k e) := by
  refine ⟨fun n listening map store c _ hcached => ?_,
    fun n listening map store c _ hcached hfiled => ?_⟩
  · obtain ⟨hstore, hsp, ⟨err, hprog, hmap⟩ | ⟨hprog, hmap⟩⟩ :=
      Work.advance_removeGrid n listening map store (c := c) (k := k) (e := e)
    · exact ⟨hstore, hsp, .inl ⟨⟨err, hprog⟩, hmap⟩⟩
    · refine ⟨hstore, hsp, .inr ⟨hprog, ?_⟩⟩
      rw [hmap]
      exact hcached.strike k
  · obtain ⟨hmap, hsp, hend⟩ := Work.advance_removeStore n listening map store (c := c) hk
    refine ⟨hmap, hsp, ?_⟩
    rcases hend with ⟨hprog, hrows⟩ | ⟨hprog, hrows⟩
    · exact .inl ⟨hprog, hfiled.strike hrows⟩
    · refine .inr ⟨hprog, hfiled.congr hrows, hcached.mono fun m f hf => ?_⟩
      rw [Table.get?_erase] at hf
      split at hf
      · cases hf
      · exact hf

/-! ### Loading -/

inductive LoadsFiled (l : Ledger E) : Work E Out → Prop
  | notice {w : Work E Out} (h : w.IsNotice) : LoadsFiled l w
  | scan (span : Span) : LoadsFiled l (.scan span)
  | feed (span : Span) (rest : List E) (count : Nat)
    (h : ∀ e ∈ rest, ∃ k, Entity.key e = .ok k ∧ l.get? k = some (Entity.stamp k e)) :
    LoadsFiled l (.feed span rest count)

structure Loading (l : Ledger E) (s : Tiers E Out L) : Prop where
  filed : Filed l s.store
  cached : Cached l s.map
  due : ∀ j w, s.Due j w → LoadsFiled l w

omit [LawfulEntity E] in
theorem Loading.apply {client : Client L} {m : Move E Out} (h : Loading l s)
    (hi : i < s.tasks.length) (hstore : Filed l m.store) (hmap : Cached l m.map)
    (hnext : ∀ w, m.progress = .next w → LoadsFiled l w) (hsp : m.spawned = []) :
    Loading l (s.apply i client m) :=
  ⟨hstore, hmap, Tiers.due_of_apply h.due hi hnext (by simp [hsp])⟩

theorem Loading.step (s : Tiers E Out L) (e : Event E Out L) (h : Loading l s)
    (hp : s.Permits steady e) : Loading l (s.step e) := by
  cases e with
  | ask client request => exact hp.elim
  | lose m => exact ⟨h.filed, h.cached.lose m, h.due⟩
  | call i c =>
    rcases s.call_cases i c with ⟨-, hs⟩ | ⟨client, w, hw, hs⟩
    · simpa only [Tiers.step, hs] using h
    · simp only [Tiers.step, hs]
      cases h.due i w hw with
      | notice hv =>
        obtain ⟨hmap, hstore, hprog, hsp⟩ :=
          Work.advance_notice i client.listener.isSome s.map s.store (c := c) hv
        exact h.apply hw.lt (by rw [hstore]; exact h.filed) (by rw [hmap]; exact h.cached)
          (by simp [hprog]) hsp
      | scan span =>
        obtain ⟨hmap, hrows, hsp, hend⟩ :=
          Work.advance_scan i client.listener.isSome s.map s.store (c := c) span
        refine h.apply hw.lt (h.filed.congr fun m => congrArg (Table.get? · m) hrows)
          (by rw [hmap]; exact h.cached) (fun v hv => ?_) hsp
        rcases hend with ⟨a, hprog⟩ | hprog
        · simp [hprog] at hv
        · rw [hprog] at hv
          cases hv
          exact .feed span _ 0 fun e he => h.filed.mem_rowsIn he
      | feed span rest count hrest =>
        obtain ⟨hstore, hsp,
            ⟨⟨a, hprog⟩, hmap⟩ | ⟨row, left, key, stamped, rfl, hrow, hprog, hmap⟩⟩ :=
          Work.advance_feed i client.listener.isSome s.map s.store (c := c) span rest count
        · exact h.apply hw.lt (by rw [hstore]; exact h.filed) (by rw [hmap]; exact h.cached)
            (by simp [hprog]) hsp
        · obtain ⟨k, hk, hl⟩ := hrest row List.mem_cons_self
          rw [Entity.stampedRow_eq hk] at hrow
          cases hrow
          refine h.apply hw.lt (by rw [hstore]; exact h.filed) (by rw [hmap]; exact h.cached.put hl)
            (fun v hv => ?_) hsp
          rw [hprog] at hv
          cases hv
          exact .feed span left _ fun e he => hrest e (List.mem_cons_of_mem _ he)

omit [LawfulEntity E] in
theorem Loading.askAll (h : Loading l s) (client : Client L) (spans : List Span) :
    Loading l (s.askAll client (spans.map .load)) := by
  refine ⟨by simpa using h.filed, by simpa using h.cached, Tiers.due_askAll client h.due ?_⟩
  intro r hr w ho
  obtain ⟨span, -, rfl⟩ := List.mem_map.1 hr
  cases ho
  exact .scan span

/-! ### Sessions -/

structure Sound (l : Ledger E) (s : Tiers E Out L) : Prop where
  filed : Filed l s.store
  cached : Cached l s.map
  settled : s.Settled

section Begin

variable {client : Client L} {r : Request E Out} {events : List (Event E Out L)}

omit [LawfulEntity E]

theorem Sound.resting (h : Sound l s) {err : KeyError} (hr : r.opening = .error err) :
    Resting l s.tasks.length none (s.ask client r).2 := by
  refine ⟨by simpa using h.filed, by simpa using h.cached, h.settled.ask hr, ?_, fun w hw => ?_⟩
  · rw [Tiers.result?_ask, Tiers.result?_of_length_le (Nat.le_refl _)]
  · rcases (Tiers.due_ask ..).1 hw with hd | ⟨-, ho⟩
    · exact absurd hd.lt (Nat.lt_irrefl _)
    · simp [hr] at ho

theorem Sound.finding (h : Sound l s) {parts : List KeyPart} (hk : Key.derive parts = .ok k) :
    Finding l k parts s.tasks.length (s.ask client (.find parts)).2 := by
  refine ⟨by simpa using h.filed, by simpa using h.cached, fun j w hw => ?_, fun found hf => ?_⟩
  · rcases (Tiers.due_ask ..).1 hw with hd | ⟨-, ho⟩
    · exact .inl (h.settled j w hd)
    · rw [Request.opening_find hk, Except.ok.injEq] at ho
      exact .inr (.inl ho.symm)
  · rw [Tiers.result?_ask, Tiers.result?_of_length_le (Nat.le_refl _)] at hf
    cases hf

theorem Sound.write {after : Ledger E} {first second : Work E Out} (h : Sound l s)
    (law : TwoCalls l after first second) (hr : r.opening = .ok first)
    (hfirst : ¬ first.IsNotice) (hsecond : ¬ second.IsNotice)
    (permitted : (s.ask client r).2.PermitsAll steady events)
    (settled : ((s.ask client r).2.run events).Settled) :
    Sound (if granted (((s.ask client r).2.run events).result? s.tasks.length) then after else l)
      ((s.ask client r).2.run events) := by
  have start : Writing l after s.tasks.length first second (s.ask client r).2 :=
    .grid (by simpa using h.filed) (by simpa using h.cached) (.ask h.settled hr)
  cases Tiers.run_of_step (Writing.step law) start permitted with
  | grid _ _ alone => exact absurd (settled _ _ alone.due) hfirst
  | store _ _ alone => exact absurd (settled _ _ alone.due) hsecond
  | ended r rest =>
    rw [rest.result]
    exact ⟨rest.filed, rest.cached, settled⟩

theorem Sound.unstarted (h : Sound l s) {err : KeyError} (hr : r.opening = .error err)
    (op : Operation E) (permitted : (s.ask client r).2.PermitsAll steady events)
    (settled : ((s.ask client r).2.run events).Settled) :
    Sound (l.post op (granted (((s.ask client r).2.run events).result? s.tasks.length)))
      ((s.ask client r).2.run events) := by
  have rest := Tiers.run_of_step Resting.step (h.resting hr) permitted
  have hl : l.post op (granted (none : Option (Result (Answer E Out)))) = l := l.post_false op
  rw [rest.result, hl]
  exact ⟨rest.filed, rest.cached, settled⟩

end Begin

theorem Sound.operation (h : Sound l s) (client : Client L) (op : Operation E)
    {events : List (Event E Out L)} (permitted : (s.begin client op).PermitsAll steady events)
    (settled : ((s.begin client op).run events).Settled) :
    Sound (l.post op (granted (((s.begin client op).run events).result? s.tasks.length)))
      ((s.begin client op).run events) := by
  cases op with
  | find parts =>
    cases hk : Key.derive parts with
    | error err =>
      exact h.unstarted (Request.opening_find_error hk) (.find parts) permitted settled
    | ok k =>
      have done := Tiers.run_of_step (Finding.step hk) (h.finding hk) permitted
      exact ⟨done.filed, done.cached, settled⟩
  | load span splits =>
    have start : Loading l (s.begin client (.load span splits)) :=
      Loading.askAll ⟨h.filed, h.cached, fun j w hw => .notice (h.settled j w hw)⟩ client _
    have done := Tiers.run_of_step Loading.step start permitted
    exact ⟨done.filed, done.cached, settled⟩
  | save e =>
    cases hk : Entity.key e with
    | error err =>
      exact h.unstarted (Request.opening_save_error hk) (.save e) permitted settled
    | ok k =>
      rw [Ledger.post_save l hk]
      exact h.write (twoCalls_save l k e) (Request.opening_save hk) id id permitted settled
  | remove e =>
    cases hk : Entity.key e with
    | error err =>
      exact h.unstarted (Request.opening_remove_error hk) (.remove e) permitted settled
    | ok k =>
      rw [Ledger.post_remove l hk]
      exact h.write (twoCalls_remove l hk) (Request.opening_remove hk) id id permitted settled

theorem Session.sound {s₀ : Tiers E Out L} {l₀ : Ledger E} (h : Session steady s₀ l₀ s l)
    (h₀ : Sound l₀ s₀) : Sound l s := by
  induction h with
  | start => exact h₀
  | next client op events _ permitted settled ih => exact ih.operation client op permitted settled

def opened (map : EntryMap E) (rows : List E) (meters : List Meter) : Tiers E Out L :=
  { Tiers.create map (RowStore.empty.seed rows).2 with meters }

omit [LawfulEntity E] in
theorem sound_opened {name : String} {policy : MapPolicy} {map : EntryMap E}
    (hmap : EntryMap.create name policy = .ok map) (rows : List E) (meters : List Meter) :
    Sound ((∅ : Ledger E).enterAll rows) (opened map rows meters : Tiers E Out L) :=
  ⟨Filed.empty.seed rows, Cached.create _ hmap,
    fun i w hw => absurd hw (Tiers.not_due_of_tasks_nil rfl i w)⟩

/-- A find that ends with an answer gives what the ledger holds under the derived key. -/
theorem Session.found_eq_ledger {name : String} {policy : MapPolicy} {map : EntryMap E}
    (hmap : EntryMap.create name policy = .ok map) {rows : List E} {meters : List Meter}
    (before : Session steady (opened map rows meters) ((∅ : Ledger E).enterAll rows) s l)
    (client : Client L) (parts : List KeyPart) {events : List (Event E Out L)}
    (permitted : (s.begin client (.find parts)).PermitsAll steady events) {found : Option E}
    (answer : ((s.begin client (.find parts)).run events).result? s.tasks.length =
      some (.ok (.entity found))) :
    ∃ k, Key.derive parts = .ok k ∧ found = l.get? k := by
  have sound := before.sound (sound_opened hmap rows meters)
  cases hk : Key.derive parts with
  | error err =>
    have rest := Tiers.run_of_step Resting.step
      (sound.resting (Request.opening_find_error hk)) permitted
    have hr := rest.result.symm.trans answer
    cases hr
  | ok k =>
    have done := Tiers.run_of_step (Finding.step hk) (sound.finding hk) permitted
    exact ⟨k, rfl, done.answer found answer⟩

namespace Trouble

open Item

def seeded : Tiers Item Unit Unit :=
  opened ⟨"items", .standard, ∅⟩ [sample "old"] []

def saved : Tiers Item Unit Unit :=
  (seeded.begin .first (.save (sample "new"))).run [.call 0 .serve, .lose sampleKey, .call 0 .serve]

def kept : Tiers Item Unit Unit :=
  (saved.begin .first (.remove (sample "new"))).run
    [.call 1 .serve, .call 1 (.fail (.ofText "down"))]

def ledger : Ledger Item :=
  ((∅ : Ledger Item).enterAll [sample "old"]).enter (sample "new")

open Tiers in
theorem session :
    Session steady seeded ((∅ : Ledger Item).enterAll [sample "old"]) kept ledger := by
  have hs : Session steady seeded ((∅ : Ledger Item).enterAll [sample "old"]) saved ledger :=
    .next .first (.save (sample "new")) _ .start
      ⟨permits_call ⟨_, rfl⟩ trivial, trivial, permits_call ⟨_, rfl⟩ rfl, trivial⟩
      (settled_of_isQuiet rfl)
  exact .next .first (.remove (sample "new")) _ hs
    ⟨permits_call ⟨_, rfl⟩ trivial, permits_call ⟨_, rfl⟩ trivial, trivial⟩
    (settled_of_isQuiet rfl)

def blind : List (Event Item Unit Unit) :=
  [.call 2 (.crash "lost"), .call 2 .serve]

open Tiers in
theorem found_new : ∃ k, Key.derive [.int 7] = .ok k ∧
    some (stampedSample "new") = ledger.get? k := by
  have hmap : EntryMap.create "items" .standard = .ok (⟨"items", .standard, ∅⟩ : EntryMap Item) :=
    rfl
  have permitted : (kept.begin .first (.find [.int 7])).PermitsAll steady blind :=
    ⟨permits_call ⟨_, rfl⟩ trivial, permits_call ⟨_, rfl⟩ trivial, trivial⟩
  have answer : ((kept.begin .first (.find [.int 7])).run blind).result? 2 =
      some (.ok (.entity (some (stampedSample "new")))) := rfl
  exact session.found_eq_ledger hmap .first [.int 7] permitted answer

end Trouble

end CacheAside
