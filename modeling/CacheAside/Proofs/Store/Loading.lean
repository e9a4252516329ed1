import CacheAside.Proofs.Span.Tiling
import CacheAside.Proofs.Store.Keyed
import Mathlib.Data.List.Nodup
/-!
Loads from a store of rows. A load hands over the rows of its span in whatever order the store
lists them, each once, and stops at the first that is refused. Spans that meet divide the rows of
the span that they make up.
-/

set_option autoImplicit false

namespace CacheAside

variable {σ E : Type}

/-- The consumer, with notes of the rows it was handed and of its answers, in order. -/
def Consumer.noting (accept : Consumer σ E) : Consumer (σ × List (E × Except Fault Unit)) E :=
  fun (c, notes) e => ((accept c e).1, ((accept c e).2, notes ++ [(e, (accept c e).1)]))

namespace RowStore

theorem stream_noting (accept : Consumer σ E) (rows : List E) (done : Nat) (c : σ)
    (notes : List (E × Except Fault Unit)) :
    stream accept rows done c =
      ((stream accept.noting rows done (c, notes)).1,
        (stream accept.noting rows done (c, notes)).2.1) := by
  induction rows generalizing done c notes with
  | nil => rfl
  | cons e rest ih =>
    rcases h : accept c e with ⟨answer, c'⟩
    cases answer with
    | error f => simp [stream, Consumer.noting, h]
    | ok _ => simpa [stream, Consumer.noting, h] using ih (done + 1) c' _

/-- All rows are accepted, or those before the first that is refused. -/
theorem stream_cases (accept : Consumer σ E) (rows : List E) (done : Nat) (c : σ)
    (notes : List (E × Except Fault Unit)) :
    let r := stream accept.noting rows done (c, notes)
    (r.1 = .ok (done + rows.length) ∧ r.2.2 = notes ++ rows.map fun e => (e, .ok ())) ∨
      ∃ before e after f, rows = before ++ e :: after ∧ r.1 = .error f ∧
        r.2.2 = notes ++ before.map (fun e => (e, .ok ())) ++ [(e, .error f)] := by
  induction rows generalizing done c notes with
  | nil => exact .inl ⟨rfl, (List.append_nil notes).symm⟩
  | cons e rest ih =>
    rcases h : accept c e with ⟨answer, c'⟩
    cases answer with
    | error f => exact .inr ⟨[], e, rest, f, rfl, by simp [stream, Consumer.noting, h]⟩
    | ok _ =>
      have hstep : stream accept.noting (e :: rest) done (c, notes) =
          stream accept.noting rest (done + 1) (c', notes ++ [(e, .ok ())]) := by
        simp [stream, Consumer.noting, h]
      rw [hstep]
      obtain ⟨hreply, hnotes⟩ | ⟨before, x, after, f, rfl, hreply, hnotes⟩ :=
        ih (done + 1) c' (notes ++ [(e, .ok ())])
      · refine .inl ⟨?_, by simp [hnotes]⟩
        rw [hreply, List.length_cons, Nat.add_right_comm, Nat.add_assoc]
      · exact .inr ⟨e :: before, x, after, f, rfl, hreply, by simp [hnotes]⟩

theorem rowsIn_perm {s t : RowStore E} (h : t.rows.entries.Perm s.rows.entries)
    (start stop : Int64) : (t.rowsIn start stop).Perm (s.rowsIn start stop) :=
  (h.filter _).map _

theorem mem_rowsIn {s : RowStore E} {start stop : Int64} {e : E} :
    e ∈ s.rowsIn start stop ↔
      ∃ k, s.rows.get? k = some e ∧ start ≤ k.token ∧ k.token < stop := by
  simp [rowsIn, ← Table.mem_entries_iff]

/-- Each row of two spans that meet lies in one of them. -/
theorem rowsIn_append_perm (s : RowStore E) {a b c : Int64} (hab : a ≤ b) (hbc : b ≤ c) :
    (s.rowsIn a b ++ s.rowsIn b c).Perm (s.rowsIn a c) := by
  have tiles : Span.Tiles a [⟨a, b, hab⟩, ⟨b, c, hbc⟩] c := ⟨rfl, rfl, rfl⟩
  have := (tiles.filter_perm (fun r : Key × E => r.1.token) s.rows.entries).map Prod.snd
  simpa [rowsIn, Span.contains] using this

/-- A load of a store as it may go: its bounds, its consumer, and the order in which the store lists
the rows this time. -/
structure Loading (s : RowStore E) : Type 1 where
  start : Int64
  stop : Int64
  {State : Type}
  accept : Consumer State E
  state : State
  listed : Table Key E
  order : listed.entries.Perm s.rows.entries

namespace Loading

variable {s : RowStore E}

def store (l : Loading s) : RowStore E :=
  { s with rows := l.listed }

def outcome (l : Loading s) :
    (Except Fault Nat × l.State × List (E × Except Fault Unit)) × RowStore E :=
  l.store.load l.start l.stop l.accept.noting (l.state, [])

def reply (l : Loading s) : Except Fault Nat :=
  l.outcome.1.1

def notes (l : Loading s) : List (E × Except Fault Unit) :=
  l.outcome.1.2.2

def handed (l : Loading s) : List E :=
  l.notes.map Prod.fst

def Unrefused (l : Loading s) : Prop :=
  ∀ note ∈ l.notes, note.2 = .ok ()

/-- What a load does, whether its consumer takes notes or not: rows that are handed over have their
keys in the span, all of them are if none is refused, and one that is refused is the last. -/
structure Exact [Entity E] (l : Loading s) : Prop where
  unnoted : l.store.load l.start l.stop l.accept l.state =
    ((l.reply, l.outcome.1.2.1), l.outcome.2)
  rows_eq : l.outcome.2.rows = l.listed
  stored : ∀ e ∈ l.handed, ∃ k, Entity.key e = .ok k ∧ s.rows.get? k = some e ∧
    l.start ≤ k.token ∧ k.token < l.stop
  once : (l.handed.map Entity.key).Nodup
  unrefused : l.Unrefused → l.reply = .ok l.handed.length ∧ ∀ k e, s.rows.get? k = some e →
    l.start ≤ k.token → k.token < l.stop → e ∈ l.handed
  refused : ∀ j e f, l.notes[j]? = some (e, .error f) → l.reply = .error f ∧
    l.notes.length = j + 1 ∧ ∀ i < j, ∃ e, l.notes[i]? = some (e, .ok ())

def rows (l : Loading s) : List E :=
  l.store.rowsIn l.start l.stop

theorem mem_rows {l : Loading s} {e : E} :
    e ∈ l.rows ↔ ∃ k, s.rows.get? k = some e ∧ l.start ≤ k.token ∧ k.token < l.stop := by
  rw [← mem_rowsIn]
  exact (rowsIn_perm l.order l.start l.stop).mem_iff

theorem notes_cases (l : Loading s) :
    (l.reply = .ok l.rows.length ∧ l.notes = l.rows.map fun e => (e, .ok ())) ∨
      ∃ before e after f, l.rows = before ++ e :: after ∧ l.reply = .error f ∧
        l.notes = before.map (fun e => (e, .ok ())) ++ [(e, .error f)] := by
  have h := stream_cases l.accept l.rows 0 l.state []
  simp only [Nat.zero_add, List.nil_append] at h
  exact h

theorem handed_prefix (l : Loading s) : l.handed <+: l.rows := by
  obtain ⟨-, hnotes⟩ | ⟨before, e, after, f, hrows, -, hnotes⟩ := l.notes_cases
  · simp [handed, hnotes, Function.comp_def]
  · exact ⟨after, by simp [handed, hnotes, hrows, Function.comp_def]⟩

theorem Unrefused.complete {l : Loading s} (h : l.Unrefused) :
    l.reply = .ok l.rows.length ∧ l.handed = l.rows := by
  obtain ⟨hreply, hnotes⟩ | ⟨before, e, after, f, -, -, hnotes⟩ := l.notes_cases
  · exact ⟨hreply, by simp [handed, hnotes, Function.comp_def]⟩
  · exact nomatch h (e, .error f) (by simp [hnotes])

theorem refusal {l : Loading s} {j : Nat} {e : E} {f : Fault}
    (h : l.notes[j]? = some (e, .error f)) :
    l.reply = .error f ∧ l.notes.length = j + 1 ∧ ∀ i < j, ∃ e, l.notes[i]? = some (e, .ok ()) := by
  obtain ⟨-, hnotes⟩ | ⟨before, x, after, g, -, hreply, hnotes⟩ := l.notes_cases
  · simp [hnotes] at h
  · have hj : j = before.length := by
      rw [hnotes, List.getElem?_append, List.length_map] at h
      split at h
      · simp at h
      · have := (List.getElem?_eq_some_iff.1 h).1
        simp at this
        omega
    subst hj
    obtain ⟨rfl, rfl⟩ : x = e ∧ g = f := by simpa [hnotes] using h
    refine ⟨hreply, by simp [hnotes], fun i hi => ⟨before[i], ?_⟩⟩
    rw [hnotes, List.getElem?_append_left (by simpa using hi)]
    simp [hi]

variable [Entity E]

theorem nodup_keys_rows (h : s.Keyed) (l : Loading s) : (l.rows.map Entity.key).Nodup := by
  have hkeys : l.rows.map Entity.key = (l.listed.entries.filter fun r =>
      l.start ≤ r.1.token && r.1.token < l.stop).map fun r => .ok r.1 := by
    rw [rows, rowsIn, List.map_map]
    refine List.map_congr_left fun r hr => h r.1 r.2 ?_
    rw [← Table.mem_entries_iff, ← l.order.mem_iff]
    exact (List.mem_filter.1 hr).1
  have hnodup := l.listed.nodup.sublist ((List.filter_sublist (p := fun r : Key × E =>
    l.start ≤ r.1.token && r.1.token < l.stop)).map Prod.fst)
  have := hnodup.map fun _ _ => Except.ok.inj (ε := KeyError)
  rwa [hkeys, ← Function.comp_def Except.ok Prod.fst, ← List.map_map]

theorem exact_of_keyed (h : s.Keyed) (l : Loading s) : l.Exact where
  unnoted := by
    rw [RowStore.load, stream_noting l.accept _ 0 l.state []]
    rfl
  rows_eq := rfl
  stored e he := by
    obtain ⟨k, hk, hspan⟩ := mem_rows.1 (l.handed_prefix.subset he)
    exact ⟨k, h k e hk, hk, hspan⟩
  once := (l.nodup_keys_rows h).sublist (l.handed_prefix.sublist.map _)
  unrefused hu := by
    obtain ⟨hreply, hrows⟩ := hu.complete
    exact ⟨by rw [hreply, hrows], fun k e hk hstart hstop =>
      hrows ▸ mem_rows.2 ⟨k, hk, hstart, hstop⟩⟩
  refused _ _ _ := refusal

omit [Entity E] in
theorem rows_perm (l : Loading s) : l.rows.Perm (s.rowsIn l.start l.stop) :=
  rowsIn_perm l.order l.start l.stop

structure Divide (below above whole : Loading s) : Prop where
  start_eq : below.start = whole.start
  meet : below.stop = above.start
  stop_eq : above.stop = whole.stop
  below_le : below.start ≤ below.stop
  above_le : above.start ≤ above.stop

omit [Entity E] in
theorem Divide.rows_perm {below above whole : Loading s} (h : Divide below above whole) :
    (below.rows ++ above.rows).Perm whole.rows := by
  have hparts := below.rows_perm.append above.rows_perm
  have hdivided := s.rowsIn_append_perm (h.meet ▸ h.below_le) h.above_le
  rw [h.meet] at hparts
  rw [h.start_eq, h.stop_eq] at *
  exact (hparts.trans hdivided).trans whole.rows_perm.symm

end Loading

/-- Every load of a store that was built by calls is exact, and loads of two spans that meet are
together the load of both, in whatever order each of them comes to the rows. -/
theorem loads_exact [Entity E] {s : RowStore E} (h : s.Built) :
    (∀ l : Loading s, l.Exact) ∧
      ∀ below above whole : Loading s, below.Divide above whole →
        below.Unrefused → above.Unrefused → whole.Unrefused →
        (below.handed ++ above.handed).Perm whole.handed ∧
          ∃ m n, below.reply = .ok m ∧ above.reply = .ok n ∧ whole.reply = .ok (m + n) := by
  refine ⟨fun l => l.exact_of_keyed h.keyed, fun below above whole divide hb ha hw => ?_⟩
  obtain ⟨hbelow, hbelowRows⟩ := hb.complete
  obtain ⟨habove, haboveRows⟩ := ha.complete
  obtain ⟨hwhole, hwholeRows⟩ := hw.complete
  have hperm := divide.rows_perm
  refine ⟨by rwa [hbelowRows, haboveRows, hwholeRows], _, _, hbelow, habove, ?_⟩
  rw [hwhole, ← hperm.length_eq, List.length_append]

end RowStore

namespace RowStore.Border

def row (token : Int64) (content : String) : Item :=
  ⟨[], some ⟨token⟩, content⟩

def stock : RowStore Item :=
  (RowStore.empty.seed
    [row 9223372036854775806 "last", row 3 "border", row (-9223372036854775808) "first"]).2

def collecting : Consumer (List Item) Item :=
  fun taken e => (.ok (), taken ++ [e])

def refusing : Consumer Nat Item :=
  fun seen e => (if e.content = "border" then .error (.ofText "no room") else .ok (), seen + 1)

def below : Loading stock :=
  ⟨Int64.minValue, 3, collecting, [], stock.rows, .refl _⟩

def above : Loading stock :=
  ⟨3, Int64.maxValue, collecting, [], stock.rows, .refl _⟩

def reversed : Table Key Item :=
  ⟨stock.rows.entries.reverse, by decide⟩

def whole : Loading stock :=
  ⟨Int64.minValue, Int64.maxValue, collecting, [], reversed, List.reverse_perm _⟩

def refused : Loading stock :=
  ⟨Int64.minValue, Int64.maxValue, refusing, 0, reversed, List.reverse_perm _⟩

theorem border_above :
    stock.Built ∧ below.handed.map Item.content = ["first"] ∧
      above.handed.map Item.content = ["last", "border"] ∧
      (below.handed ++ above.handed).Perm whole.handed ∧ whole.reply = .ok 3 ∧
      refused.reply = .error (.ofText "no room") ∧ refused.notes.length = 2 := by
  have built : stock.Built := .seed .empty _
  obtain ⟨exact, divided⟩ := loads_exact built
  have hbelow : below.Unrefused := List.forall_mem_cons.2 ⟨rfl, List.forall_mem_nil _⟩
  have habove : above.Unrefused :=
    List.forall_mem_cons.2 ⟨rfl, List.forall_mem_cons.2 ⟨rfl, List.forall_mem_nil _⟩⟩
  have hwhole : whole.Unrefused := List.forall_mem_cons.2
    ⟨rfl, List.forall_mem_cons.2 ⟨rfl, List.forall_mem_cons.2 ⟨rfl, List.forall_mem_nil _⟩⟩⟩
  obtain ⟨hperm, -⟩ :=
    divided below above whole ⟨rfl, rfl, rfl, by decide, by decide⟩ hbelow habove hwhole
  obtain ⟨hreply, hlength, -⟩ := (exact refused).refused 1 (row 3 "border") _ rfl
  exact ⟨built, rfl, rfl, hperm, rfl, hreply, hlength⟩

end RowStore.Border

end CacheAside
