import CacheAside.Document.Store
import CacheAside.Proofs.Document.Laws
import CacheAside.Record.Basic
/-!
Records in a document store and in a row store. Each document of a collection, found by namespace
and id, holds the record of one row, found by derived key, and the token of its key. Calls keep them
so, and no reply tells one store from the other, in whatever order the collection lists documents.
-/

set_option autoImplicit false

namespace CacheAside

namespace Record

def bare (r : Record) : Record :=
  { r with id := none, stamp := none }

/-- The time and the body come back from their stored forms. -/
structure Exact (r : Record) : Prop where
  time : Instant.parse? r.updatedAt.text = some r.updatedAt
  body : (DocValue.document r.body).stored.retrieved = .ok (.document r.body)

theorem exact_of_unmarked {r : Record} (time : Instant.parse? r.updatedAt.text = some r.updatedAt)
    (h : DocValue.areUnmarkedFields r.body) : r.Exact := by
  have hbody : (DocValue.document r.body).isUnmarked := by simpa [DocValue.isUnmarked] using h
  refine ⟨time, ?_⟩
  rw [DocValue.stored_unmarked _ hbody, DocValue.retrieved_unmarked _ hbody]

def collect : Consumer (List Record) Record :=
  fun rows r => (.ok (), rows ++ [r.bare])

end Record

inductive RecordCall where
  | find (space name : String)
  | save (record : Record)
  | remove (record : Record)
  | load (start stop : Int64)

inductive RecordReply where
  | found (record : Option Record)
  | applied (yes : Bool)
  | loaded (rows : List Record) (count : Nat)

inductive RecordReply.Alike (o : Listing) : RecordReply → RecordReply → Prop
  | found (r : Option Record) : Alike o (.found r) (.found r)
  | applied (yes : Bool) : Alike o (.applied yes) (.applied yes)
  | loaded {as bs : List Record} (h : o.Same as bs) (count : Nat) :
    Alike o (.loaded as count) (.loaded bs count)

theorem RecordReply.Alike.eq {a b : RecordReply} (h : Alike .kept a b) : a = b := by
  cases h with
  | found | applied => rfl
  | loaded h => rw [show _ = _ from h]

def DocumentStore.reply {C : Type} [Documents C] (s : DocumentStore C) :
    RecordCall → Except DocumentError RecordReply × DocumentStore C
  | .find space name =>
    ((fun o => .found (o.map Record.bare)) <$> s.find (Record.keyParts space name), s)
  | .save r => let (a, s) := s.save r; (.applied <$> a, s)
  | .remove r => let (a, s) := s.remove r; (.applied <$> a, s)
  | .load start stop =>
    let (a, rows) := s.load start stop Record.collect []; (.loaded rows <$> a, s)

def RowStore.reply (s : RowStore Record) :
    RecordCall → Except Fault RecordReply × RowStore Record
  | .find space name =>
    let (a, s) := s.find (Record.keyParts space name)
    ((fun o => .found (o.map Record.bare)) <$> a, s)
  | .save r => let (a, s) := s.save r; (.applied <$> a, s)
  | .remove r => let (a, s) := s.remove r; (.applied <$> a, s)
  | .load start stop =>
    let ((a, rows), s) := s.load start stop Record.collect []; (.loaded rows <$> a, s)

def repliesOf {S R : Type} (reply : S → RecordCall → R × S) (s : S) : List RecordCall → List R
  | [] => []
  | c :: rest => (reply s c).1 :: repliesOf reply (reply s c).2 rest

/-! ### One document and one row -/

namespace Document

def ofPlace (space name : String) : Document :=
  [("namespace", .text space), ("record_id", .text name)]

structure Describes (d : Document) (k : Key) (r : Record) : Prop where
  space : d.get? "namespace" = some (.text r.space)
  name : d.get? "record_id" = some (.text r.name)
  body : d.get? "body" = some (DocValue.document r.body).stored
  updatedAt : d.get? "updated_at" = some (.text r.updatedAt.text)
  token : d.get? tokenField = some (.int64 k.token)

variable {d old : Document} {k : Key} {r : Record}

theorem describes_document (r : Record) (k : Key) :
    Describes (Document.put r.document tokenField (.int64 k.token)) k r := by
  obtain ⟨id, space, name, body, updatedAt, stamp⟩ := r
  constructor <;> cases id <;>
    simp [Record.document, get?, put, Table.put, Table.lookup, tokenField]

theorem get?_id_document (r : Record) (k : Key) :
    get? (Document.put r.document tokenField (.int64 k.token)) "_id" = r.id.map .objectId := by
  obtain ⟨id, space, name, body, updatedAt, stamp⟩ := r
  cases id <;> simp [Record.document, get?, put, Table.put, Table.lookup, tokenField]

theorem Describes.heldAs {id : DocValue} (h : d.Describes k r) (held : d.HeldAs old id) :
    old.Describes k r := by
  constructor
  · rw [held.rest _ (by decide), h.space]
  · rw [held.rest _ (by decide), h.name]
  · rw [held.rest _ (by decide), h.body]
  · rw [held.rest _ (by decide), h.updatedAt]
  · rw [held.rest _ (by decide), h.token]

/-- A document that describes a record is met by the filter of its place alone. -/
theorem Describes.meets_ofPlace (h : d.Describes k r) (space name : String) :
    d.meets (ofPlace space name) = true ↔ (r.space, r.name) = (space, name) := by
  simp [meets, ofPlace, h.space, h.name, DocValue.alike]

theorem Describes.within_tokenField (h : d.Describes k r) (start stop : Int64) :
    d.within tokenField start stop = (start ≤ k.token && k.token < stop) := by
  simp [within, h.token]

theorem Describes.readRow (h : d.Describes k r) (exact : r.Exact) {i : ObjectId}
    (hi : d.get? "_id" = some (.objectId i)) :
    DocumentStore.readRow d = .ok { r with id := some i, stamp := none } := by
  have hread : Record.ofDocument d = .ok { r with id := some i, stamp := none } := by
    simp [Record.ofDocument, h.space, h.name, h.body, h.updatedAt, hi, Record.idOf, Record.bodyOf,
      Record.instantOf, exact.time, exact.body, DocValue.text?, DocValue.retrieved,
      DocValue.document?, Reader.ofOption, Reader.required, Functor.map, Except.map, bind,
      Except.bind, pure, Except.pure]
  simp [DocumentStore.readRow, Stored.ofDocument, hread]

end Document

/-! ### Documents and rows side by side -/

/-- The places that records are at: each has a key, and no two have one. -/
structure Places (P : String → String → Prop) : Prop where
  derived : ∀ space name, P space name → ∃ k, Key.derive (Record.keyParts space name) = .ok k
  distinct : ∀ space name space' name', P space name → P space' name' →
    Key.derive (Record.keyParts space name) = Key.derive (Record.keyParts space' name') →
      (space, name) = (space', name')

structure Mirrors (P : String → String → Prop) (d : Document) (row : Key × Record) : Prop where
  describes : d.Describes row.1 row.2
  id : ∃ i, d.get? "_id" = some (.objectId i)
  place : P row.2.space row.2.name
  key : Key.derive (Record.keyParts row.2.space row.2.name) = .ok row.1
  exact : row.2.Exact

/-- Documents hold the records of rows, in whatever order a collection may list them. -/
def Holds (P : String → String → Prop) (o : Listing) (ds : List Document)
    (rows : List (Key × Record)) : Prop :=
  ∃ listed, List.Forall₂ (Mirrors P) ds listed ∧ o.Same listed rows

theorem exists_middle {α β : Type} {R : α → β → Prop} {l r : List α} {a : α} {bs : List β}
    (h : List.Forall₂ R (l ++ a :: r) bs) :
    ∃ l' b r', bs = l' ++ b :: r' ∧ List.Forall₂ R l l' ∧ R a b ∧ List.Forall₂ R r r' := by
  induction l generalizing bs with
  | nil =>
    cases h with
    | cons hab hr => exact ⟨[], _, _, rfl, .nil, hab, hr⟩
  | cons x l ih =>
    cases h with
    | cons hx h =>
      obtain ⟨l', b, r', rfl, hl, hab, hr⟩ := ih h
      exact ⟨_ :: l', b, r', rfl, .cons hx hl, hab, hr⟩

section Lists

variable {P : String → String → Prop} {o : Listing} {ds es : List Document}
  {rows : List (Key × Record)} {k : Key} {space name : String}

theorem Mirrors.meets_iff (hP : Places P) {d : Document} {row : Key × Record}
    (h : Mirrors P d row) (place : P space name)
    (hk : Key.derive (Record.keyParts space name) = .ok k) :
    d.meets (Document.ofPlace space name) = true ↔ row.1 = k := by
  rw [h.describes.meets_ofPlace]
  constructor
  · intro heq
    obtain ⟨rfl, rfl⟩ := Prod.mk.inj heq
    rw [h.key] at hk
    exact Except.ok.inj hk
  · intro heq
    refine hP.distinct _ _ _ _ h.place place ?_
    rw [h.key, hk, heq]

theorem Holds.of_same (h : Holds P o ds rows) (same : o.Same es ds) : Holds P o es rows := by
  obtain ⟨listed, hlisted, hrows⟩ := h
  obtain ⟨ys, hys, hsame⟩ := same.exists_forall₂ hlisted
  exact ⟨ys, hys, hsame.trans hrows⟩

theorem Holds.split {l r : List Document} {d : Document} (h : Holds P o (l ++ d :: r) rows) :
    ∃ l' row r', List.Forall₂ (Mirrors P) l l' ∧ Mirrors P d row ∧
      List.Forall₂ (Mirrors P) r r' ∧ o.Same (l' ++ row :: r') rows := by
  obtain ⟨listed, hlisted, hrows⟩ := h
  obtain ⟨l', row, r', rfl, hl, hd, hr⟩ := exists_middle hlisted
  exact ⟨l', row, r', hl, hd, hr, hrows⟩

def FilterOf (P : String → String → Prop) (k : Key) (filter : Document) : Prop :=
  ∀ d row, Mirrors P d row → (d.meets filter = true ↔ row.1 = k)

variable {filter : Document}

theorem Holds.row_of_meets (h : Holds P o ds rows) (hf : FilterOf P k filter)
    (nodup : (rows.map Prod.fst).Nodup) {d : Document} (hd : d ∈ ds)
    (meets : d.meets filter = true) : ∃ r, Table.lookup k rows = some r ∧ Mirrors P d (k, r) := by
  obtain ⟨l, r, rfl⟩ := List.append_of_mem hd
  obtain ⟨l', ⟨key, row⟩, r', -, mirrors, -, same⟩ := h.split
  obtain rfl : key = k := (hf _ _ mirrors).1 meets
  refine ⟨row, (Table.lookup_eq_some_iff nodup _ _).2 ?_, mirrors⟩
  exact same.perm.mem_iff.1 (by simp)

theorem Holds.key_notMem (h : Holds P o ds rows) (hf : FilterOf P k filter)
    (absent : ∀ d ∈ ds, d.meets filter = false) : k ∉ rows.map Prod.fst := by
  intro hk
  obtain ⟨row, hrow, rfl⟩ := List.mem_map.1 hk
  obtain ⟨listed, hlisted, same⟩ := h
  obtain ⟨l, r, rfl⟩ := List.append_of_mem (same.perm.mem_iff.2 hrow)
  obtain ⟨l', d, r', rfl, -, mirrors, -⟩ := exists_middle hlisted.flip
  have := absent d (by simp)
  simp [(hf d row mirrors).2 rfl] at this

theorem notMem_of_middle {l r : List (Key × Record)} {w : Record}
    (same : o.Same (l ++ (k, w) :: r) rows) (nodup : (rows.map Prod.fst).Nodup) :
    ((l ++ (k, w) :: r).map Prod.fst).Nodup ∧ k ∉ l.map Prod.fst ∧ k ∉ r.map Prod.fst := by
  have hnodup := (same.perm.map Prod.fst).nodup_iff.2 nodup
  refine ⟨hnodup, ?_⟩
  simp only [List.map_append, List.map_cons, List.nodup_append, List.nodup_cons] at hnodup
  exact ⟨fun hk => hnodup.2.2 k hk k (.head _) rfl, hnodup.2.1.1⟩

theorem Listing.Same.put {as bs : List (Key × Record)} (h : o.Same as bs)
    (nodup : (as.map Prod.fst).Nodup) (k : Key) (r : Record) :
    o.Same (Table.put k r as) (Table.put k r bs) := by
  cases o
  · exact congrArg (Table.put k r) h
  · exact Table.perm_put nodup h k r

/-- A written record takes the place of the row under its key, or the last place. -/
theorem Holds.written (h : Holds P o ds rows) (hf : FilterOf P k filter)
    (nodup : (rows.map Prod.fst).Nodup) {new : Document} {r : Record} {report : Replaced}
    (hw : Document.Written o filter new ds es report) (describes : new.Describes k r)
    (hid : new.get? "_id" = r.id.map .objectId) (place : P r.space r.name)
    (hk : Key.derive (Record.keyParts r.space r.name) = .ok k) (exact : r.Exact) :
    (0 < report.matched || report.upserted.isSome) = true ∧ Holds P o es (Table.put k r rows) := by
  have mirrors {d : Document} {i : ObjectId} (held : new.HeldAs d (.objectId i)) :
      Mirrors P d (k, r) := ⟨describes.heldAs held, ⟨i, held.id⟩, place, hk, exact⟩
  cases hw with
  | @replaced l right old d meets had has held =>
    obtain ⟨l', ⟨key, w⟩, r', hl, hold, hr, same⟩ := (h.of_same had.symm).split
    obtain rfl : key = k := (hf _ _ hold).1 meets
    obtain ⟨i, hi⟩ := hold.id
    obtain ⟨hnodup, hleft, -⟩ := notMem_of_middle same nodup
    have hput := same.put hnodup key r
    rw [Table.put_append_cons hleft] at hput
    have hnew := List.rel_append hl (.cons (mirrors (held _ hi)) hr)
    exact ⟨rfl, Holds.of_same ⟨_, hnew, hput⟩ has⟩
  | @inserted d id absent has held own made =>
    have hmirrors : Mirrors P d (k, r) := by
      cases hr : r.id with
      | some i =>
        obtain rfl := own _ (by rw [hid, hr]; rfl)
        exact mirrors held
      | none =>
        obtain ⟨i, rfl⟩ := made (by rw [hid, hr]; rfl)
        exact mirrors held
    have hnone := Table.lookup_eq_none_iff.2 (h.key_notMem hf absent)
    obtain ⟨listed, hlisted, same⟩ := h
    rw [Table.put_of_lookup_eq_none hnone]
    have hnew := List.rel_append hlisted (.cons hmirrors .nil)
    exact ⟨rfl, Holds.of_same ⟨_, hnew, same.append (.refl o _)⟩ has⟩

theorem Holds.deleted (h : Holds P o ds rows) (hf : FilterOf P k filter)
    (nodup : (rows.map Prod.fst).Nodup) {count : Nat}
    (hd : Document.Deleted o filter ds es count) :
    decide (0 < count) = (Table.lookup k rows).isSome ∧ Holds P o es (rows.filter (·.1 ≠ k)) := by
  cases hd with
  | @one l right old meets had has =>
    obtain ⟨l', ⟨key, w⟩, r', hl, hold, hr, same⟩ := (h.of_same had.symm).split
    obtain rfl : key = k := (hf _ _ hold).1 meets
    obtain ⟨hnodup, hleft, hright⟩ := notMem_of_middle same nodup
    have hfilter := same.filter (·.1 ≠ key)
    rw [List.filter_append, List.filter_cons_of_neg (by simp), Table.filter_ne_of_notMem hleft,
      Table.filter_ne_of_notMem hright] at hfilter
    have hlookup := (Table.lookup_eq_some_iff nodup key w).2 (same.perm.mem_iff.1 (by simp))
    exact ⟨by simp [hlookup], Holds.of_same ⟨_, List.rel_append hl hr, hfilter⟩ has⟩
  | none absent has =>
    have hnot := h.key_notMem hf absent
    rw [Table.filter_ne_of_notMem hnot, Table.lookup_eq_none_iff.2 hnot]
    exact ⟨rfl, h.of_same has⟩

theorem Holds.within (h : Holds P o ds rows) (start stop : Int64) :
    Holds P o (ds.filter (·.within tokenField start stop))
      (rows.filter fun row => start ≤ row.1.token && row.1.token < stop) := by
  obtain ⟨listed, hlisted, same⟩ := h
  refine ⟨_, ?_, same.filter _⟩
  clear same
  induction hlisted with
  | nil => exact .nil
  | @cons d row ds rows hd _ ih =>
    rw [List.filter_cons, List.filter_cons, hd.describes.within_tokenField]
    split
    · exact .cons hd ih
    · exact ih

end Lists

/-! ### Calls -/

def Record.TrulyStamped (r : Record) : Prop :=
  ∀ k, r.stamp = some k → Key.derive (Record.keyParts r.space r.name) = .ok k

/-- What is asked of a call: it is about one of the places, a stamp in it is true, and what it
saves comes back from its stored form. -/
def RecordCall.Sound (P : String → String → Prop) : RecordCall → Prop
  | .find space name => P space name
  | .save r => P r.space r.name ∧ r.TrulyStamped ∧ r.Exact
  | .remove r => P r.space r.name ∧ r.TrulyStamped
  | .load .. => True

theorem Record.TrulyStamped.key {r : Record} (h : r.TrulyStamped) {k : Key}
    (hk : Key.derive (Record.keyParts r.space r.name) = .ok k) : Entity.key r = .ok k := by
  cases hs : r.stamp with
  | none => rw [Entity.key, show Entity.stamped? r = none from hs]; exact hk
  | some l =>
    rw [h l hs] at hk
    rw [Entity.key_of_stamped (show Entity.stamped? r = some l from hs), ← Except.ok.inj hk]

/-- The documents of one store are the rows of the other. -/
structure Agree {C : Type} (P : String → String → Prop) (o : Listing) (held : C → List Document)
    (s : DocumentStore C) (t : RowStore Record) : Prop where
  fields : s.keyFields = Record.keyFields
  holds : Holds P o (held s.collection) t.rows.entries

section Calls

variable {C : Type} {P : String → String → Prop} {o : Listing} {held : C → List Document}
  {s : DocumentStore C} {t : RowStore Record}

theorem keyFilter_keyParts (h : s.keyFields = Record.keyFields) (space name : String) :
    s.keyFilter Record (Record.keyParts space name) = .ok (Document.ofPlace space name) := by
  obtain ⟨fields, collection⟩ := s
  subst h
  rfl

theorem keyFilter_parts (h : s.keyFields = Record.keyFields) (r : Record) :
    s.keyFilter Record (Entity.parts r) = .ok (Document.ofPlace r.space r.name) :=
  keyFilter_keyParts h r.space r.name

theorem filterOf_ofPlace (hP : Places P) {k : Key} {space name : String} (place : P space name)
    (hk : Key.derive (Record.keyParts space name) = .ok k) :
    FilterOf P k (Document.ofPlace space name) :=
  fun _ _ hd => hd.meets_iff hP place hk

variable [Documents C] (laws : Documents.Laws C o held)
include laws

theorem Agree.find (hP : Places P) (h : Agree P o held s t) {space name : String}
    (place : P space name) :
    ∃ r, (s.reply (.find space name)).1 = .ok (.found r) ∧
      (t.reply (.find space name)).1 = .ok (.found r) := by
  obtain ⟨k, hk⟩ := hP.derived space name place
  have hrow : (t.reply (.find space name)).1 =
      .ok (.found ((Table.lookup k t.rows.entries).map Record.bare)) := by
    simp [RowStore.reply, RowStore.find, RowStore.peek, hk, Table.get?, Functor.map, Except.map]
  refine ⟨_, ?_, hrow⟩
  have hfilter := keyFilter_keyParts h.fields space name
  have hf := filterOf_ofPlace hP place hk
  cases hfind : Documents.find? s.collection (Document.ofPlace space name) with
  | none =>
    have hnone := Table.lookup_eq_none_iff.2 (h.holds.key_notMem hf (laws.find_none _ _ hfind))
    simp [DocumentStore.reply, DocumentStore.find, hfilter, hfind, hnone, bind, Except.bind, pure,
      Except.pure, Functor.map, Except.map]
  | some d =>
    obtain ⟨hmem, hmeets⟩ := laws.find_some _ _ d hfind
    obtain ⟨r, hlookup, hd⟩ := h.holds.row_of_meets hf t.rows.nodup hmem hmeets
    obtain ⟨i, hi⟩ := hd.id
    have hread := hd.describes.readRow hd.exact hi
    simp [DocumentStore.reply, DocumentStore.find, hfilter, hfind, hlookup, hread, Record.bare,
      bind, Except.bind, Functor.map, Except.map]

theorem Agree.save (hP : Places P) (h : Agree P o held s t) {r : Record} (place : P r.space r.name)
    (stamped : r.TrulyStamped) (exact : r.Exact) :
    (s.reply (.save r)).1 = .ok (.applied true) ∧ (t.reply (.save r)).1 = .ok (.applied true) ∧
      Agree P o held (s.reply (.save r)).2 (t.reply (.save r)).2 := by
  obtain ⟨k, hk⟩ := hP.derived _ _ place
  have hkey := stamped.key hk
  have hfilter := keyFilter_parts h.fields r
  have hrowOf : s.rowOf r = .ok (Document.ofPlace r.space r.name,
      Document.put r.document tokenField (.int64 k.token)) := by
    simp [DocumentStore.rowOf, DocumentStore.keyOf, hkey, hfilter, bind, Except.bind, pure,
      Except.pure, Stored.document]
  have hrow : (t.save r).1 = .ok true ∧ (t.save r).2.rows = t.rows.insert k r := by
    simp [RowStore.save, RowStore.keyOf, hkey]
  obtain ⟨hreport, hholds⟩ := h.holds.written (filterOf_ofPlace hP place hk) t.rows.nodup
    (laws.written s.collection _ _) (Document.describes_document r k)
    (Document.get?_id_document r k) place hk exact
  refine ⟨?_, ?_, ?_, ?_⟩
  · simp only [DocumentStore.reply, DocumentStore.save, hrowOf, hreport]
    rfl
  · simp [RowStore.reply, hrow.1, Functor.map, Except.map]
  · simpa only [DocumentStore.reply, DocumentStore.save, hrowOf] using h.fields
  · simpa only [DocumentStore.reply, DocumentStore.save, hrowOf, RowStore.reply, hrow.2,
      Table.insert] using hholds

theorem Agree.remove (hP : Places P) (h : Agree P o held s t) {r : Record}
    (place : P r.space r.name) (stamped : r.TrulyStamped) :
    (∃ yes, (s.reply (.remove r)).1 = .ok (.applied yes) ∧
      (t.reply (.remove r)).1 = .ok (.applied yes)) ∧
      Agree P o held (s.reply (.remove r)).2 (t.reply (.remove r)).2 := by
  obtain ⟨k, hk⟩ := hP.derived _ _ place
  have hkey := stamped.key hk
  have hfilter := keyFilter_parts h.fields r
  have hrow : (t.remove r).1 = .ok (t.rows.contains k) ∧
      (t.remove r).2.rows = t.rows.erase k := by
    simp [RowStore.remove, RowStore.keyOf, hkey]
  obtain ⟨hcount, hholds⟩ := h.holds.deleted (filterOf_ofPlace hP place hk) t.rows.nodup
    (laws.deleted s.collection _)
  refine ⟨⟨t.rows.contains k, ?_, ?_⟩, ?_, ?_⟩
  · simp only [DocumentStore.reply, DocumentStore.remove, hfilter, hcount]
    rfl
  · simp [RowStore.reply, hrow.1, Functor.map, Except.map]
  · simpa only [DocumentStore.reply, DocumentStore.remove, hfilter] using h.fields
  · simpa only [DocumentStore.reply, DocumentStore.remove, hfilter, RowStore.reply, hrow.2,
      Table.erase] using hholds

omit [Documents C] laws in
theorem stream_of_mirrors {ds : List Document} {rows : List (Key × Record)}
    (h : List.Forall₂ (Mirrors P) ds rows) (done : Nat) (taken : List Record) :
    DocumentStore.stream Record.collect ds done taken =
      (.ok (done + (rows.map Prod.snd).length),
        taken ++ (rows.map Prod.snd).map Record.bare) := by
  induction h generalizing done taken with
  | nil => simp [DocumentStore.stream]
  | @cons d row ds rows hd _ ih =>
    obtain ⟨i, hi⟩ := hd.id
    have hread := hd.describes.readRow hd.exact hi
    have hbare : Record.bare { row.2 with id := some i, stamp := none } = row.2.bare := rfl
    simp only [DocumentStore.stream, hread, Record.collect, hbare, ih]
    simp [Nat.add_assoc, Nat.add_comm 1]

omit [Documents C] laws in
theorem collect_stream (rows : List Record) (done : Nat) (taken : List Record) :
    RowStore.stream Record.collect rows done taken =
      (.ok (done + rows.length), taken ++ rows.map Record.bare) := by
  induction rows generalizing done taken with
  | nil => simp [RowStore.stream]
  | cons r rest ih =>
    simp only [RowStore.stream, Record.collect, ih]
    simp [Nat.add_assoc, Nat.add_comm 1]

theorem Agree.load (h : Agree P o held s t) (start stop : Int64) :
    ∃ as bs count, o.Same as bs ∧ (s.reply (.load start stop)).1 = .ok (.loaded as count) ∧
      (t.reply (.load start stop)).1 = .ok (.loaded bs count) := by
  obtain ⟨listed, hlisted, same⟩ :=
    (h.holds.within start stop).of_same (laws.scan s.collection tokenField start stop)
  have hdoc : s.load start stop Record.collect [] = _ := stream_of_mirrors hlisted 0 []
  have hrow : (t.load start stop Record.collect []).1 = _ :=
    collect_stream (t.rowsIn start stop) 0 []
  have hsame := (same.map Prod.snd).map Record.bare
  have hlength : (listed.map Prod.snd).length = (t.rowsIn start stop).length :=
    (same.map Prod.snd).perm.length_eq
  rw [hlength] at hdoc
  refine ⟨_, _, 0 + (t.rowsIn start stop).length, hsame, ?_, ?_⟩
  · rw [DocumentStore.reply, hdoc]
    rfl
  · simp only [RowStore.reply, hrow]
    rfl

/-- One call: the replies are alike, and the stores agree as before. -/
theorem Agree.reply (hP : Places P) (h : Agree P o held s t) {c : RecordCall} (sound : c.Sound P) :
    (∃ a b, (s.reply c).1 = .ok a ∧ (t.reply c).1 = .ok b ∧ a.Alike o b) ∧
      Agree P o held (s.reply c).2 (t.reply c).2 := by
  cases c with
  | find space name =>
    obtain ⟨r, hdoc, hrow⟩ := h.find laws hP sound
    exact ⟨⟨_, _, hdoc, hrow, .found r⟩, h.fields, h.holds⟩
  | save r =>
    obtain ⟨hdoc, hrow, hnext⟩ := h.save laws hP sound.1 sound.2.1 sound.2.2
    exact ⟨⟨_, _, hdoc, hrow, .applied true⟩, hnext⟩
  | remove r =>
    obtain ⟨⟨yes, hdoc, hrow⟩, hnext⟩ := h.remove laws hP sound.1 sound.2
    exact ⟨⟨_, _, hdoc, hrow, .applied yes⟩, hnext⟩
  | load start stop =>
    obtain ⟨as, bs, count, same, hdoc, hrow⟩ := h.load laws start stop
    exact ⟨⟨_, _, hdoc, hrow, .loaded same count⟩, h.fields, h.holds⟩

theorem Agree.replies (hP : Places P) (h : Agree P o held s t) {calls : List RecordCall}
    (sound : ∀ c ∈ calls, c.Sound P) :
    ∃ as bs : List RecordReply, repliesOf DocumentStore.reply s calls = as.map .ok ∧
      repliesOf RowStore.reply t calls = bs.map .ok ∧ List.Forall₂ (RecordReply.Alike o) as bs := by
  induction calls generalizing s t with
  | nil => exact ⟨[], [], rfl, rfl, .nil⟩
  | cons c rest ih =>
    rw [List.forall_mem_cons] at sound
    obtain ⟨⟨a, b, hdoc, hrow, alike⟩, hnext⟩ := h.reply laws hP sound.1
    obtain ⟨as, bs, hdocs, hrows, alikes⟩ := ih hnext sound.2
    refine ⟨a :: as, b :: bs, ?_, ?_, .cons alike alikes⟩
    · rw [repliesOf, hdoc, hdocs, List.map_cons]
    · rw [repliesOf, hrow, hrows, List.map_cons]

end Calls

/-- From empty stores on, every call has a reply, and both stores give the same one, but for the
order of loaded rows if the collection does not keep its own. -/
theorem RecordCall.same_replies {C : Type} [Documents C] {o : Listing} {held : C → List Document}
    (laws : Documents.Laws C o held) {c : C} (empty : held c = []) {P : String → String → Prop}
    (hP : Places P) {calls : List RecordCall} (sound : ∀ c ∈ calls, c.Sound P) :
    ∃ as bs : List RecordReply,
      repliesOf DocumentStore.reply ⟨Record.keyFields, c⟩ calls = as.map .ok ∧
        repliesOf RowStore.reply .empty calls = bs.map .ok ∧
          List.Forall₂ (RecordReply.Alike o) as bs :=
  Agree.replies laws hP ⟨rfl, [], empty ▸ .nil, .refl o []⟩ sound

namespace Shelf

def first (content : String) : Record :=
  ⟨none, "a", "1", [("text", .text content)], .epoch, none⟩

def second : Record :=
  ⟨none, "a", "2", [], ⟨1700000000, 5000000⟩, none⟩

def stamped (content : String) : Record :=
  { first content with stamp := some ⟨-958522007968923118⟩ }

def Place (space name : String) : Prop :=
  space = "a" ∧ (name = "1" ∨ name = "2")

theorem derive_first : Key.derive (Record.keyParts "a" "1") = .ok ⟨-958522007968923118⟩ := rfl

theorem derive_second : Key.derive (Record.keyParts "a" "2") = .ok ⟨-9022264070986637339⟩ := rfl

theorem places : Places Place where
  derived := by
    rintro _ _ ⟨rfl, rfl | rfl⟩
    · exact ⟨_, derive_first⟩
    · exact ⟨_, derive_second⟩
  distinct := by
    rintro _ _ _ _ ⟨rfl, rfl | rfl⟩ ⟨rfl, rfl | rfl⟩ h
    · rfl
    · simp [derive_first, derive_second] at h
    · simp [derive_first, derive_second] at h
    · rfl

def all : RecordCall :=
  .load Int64.minValue Int64.maxValue

def calls : List RecordCall :=
  [.save (first "old"), .save second, .save (stamped "new"), all, .remove second, .remove second,
    .find "a" "2", .find "a" "1", all]

def replies : List RecordReply :=
  [.applied true, .applied true, .applied true, .loaded [first "new", second] 2, .applied true,
    .applied false, .found none, .found (some (first "new")), .loaded [first "new"] 1]

theorem sound : ∀ c ∈ calls, c.Sound Place := by
  have one : Place "a" "1" := ⟨rfl, .inl rfl⟩
  have two : Place "a" "2" := ⟨rfl, .inr rfl⟩
  have unstamped : ∀ r : Record, r.stamp = none → r.TrulyStamped := fun r hr k hk => by
    rw [hr] at hk
    cases hk
  have true_stamp : (stamped "new").TrulyStamped := fun k hk => by
    cases hk
    exact derive_first
  simp only [calls, List.forall_mem_cons]
  have exact {r : Record} (time : Instant.parse? r.updatedAt.text = some r.updatedAt)
      (h : DocValue.areUnmarkedFields r.body) : r.Exact := Record.exact_of_unmarked time h
  exact ⟨⟨one, unstamped _ rfl, exact rfl rfl⟩, ⟨two, unstamped _ rfl, exact rfl rfl⟩,
    ⟨one, true_stamp, exact rfl rfl⟩, trivial, ⟨two, unstamped _ rfl⟩, ⟨two, unstamped _ rfl⟩,
    two, one, trivial, List.forall_mem_nil _⟩

theorem rows_reply : repliesOf RowStore.reply .empty calls = replies.map .ok := rfl

theorem documents_reply :
    repliesOf DocumentStore.reply ⟨Record.keyFields, Collection.empty⟩ calls =
      replies.map .ok := by
  obtain ⟨as, bs, hdocs, hrows, alike⟩ :=
    RecordCall.same_replies Collection.laws (c := .empty) rfl places sound
  have heq : as = bs := List.forall₂_eq_eq_eq ▸ alike.imp fun _ _ => RecordReply.Alike.eq
  rw [rows_reply] at hrows
  rw [hdocs, heq, List.map_injective_iff.2 (fun _ _ => Except.ok.inj) hrows]

end Shelf

end CacheAside
