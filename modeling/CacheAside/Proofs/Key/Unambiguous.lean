import CacheAside.Key.Part
import Mathlib.Data.List.Forall2
/-!
Encodings of tuples are unambiguous. Behind a tag there is either a content of a width that goes
with the tag or a length and a content of that length, so that of two encodings with anything
behind them the contents are of one length as soon as the tags agree.
-/

set_option autoImplicit false

namespace CacheAside.KeyPart

/-- Two values of one kind that no encoding is to tell apart. -/
def SameContent : KeyPart → KeyPart → Prop
  | .bool a, .bool b => a = b
  | .int a, .int b => a = b
  | .uint a, .uint b => a = b
  | .float a, .float b => a.unsignedZero.bits = b.unsignedZero.bits
  | .text a, .text b => Bytes.ofText a = Bytes.ofText b
  | .bytes a, .bytes b => a = b
  | .json a, .json b => a.canonical = b.canonical
  | .hashed a, .hashed b => Digest.murmur32 a = Digest.murmur32 b
  | _, _ => False

def content : KeyPart → Bytes
  | .bool b => [if b then 1 else 0]
  | .int n => Bytes.bigEndian 8 n.toUInt64.toNat
  | .uint n => Bytes.bigEndian 8 n.toNat
  | .float x => Bytes.bigEndian 8 x.unsignedZero.bits.toNat
  | .text s => Bytes.ofText s
  | .bytes bs => bs
  | .json v => Bytes.ofText v.canonical
  | .hashed bs => Bytes.bigEndian 4 (Digest.murmur32 bs).toNat

def width? : KeyPart → Option Nat
  | .bool _ => some 1
  | .int _ | .uint _ | .float _ => some 8
  | .text _ | .bytes _ | .json _ => none
  | .hashed _ => some 4

/-- Texts, bytes and JSON are shorter than 4 GiB. -/
def Fits (p : KeyPart) : Prop :=
  p.width? = none → p.content.length < 0x100000000

instance (p : KeyPart) : Decidable p.Fits :=
  inferInstanceAs (Decidable (_ → _))

def lengthField (p : KeyPart) : Bytes :=
  match p.width? with
  | some _ => []
  | none => Bytes.bigEndian 4 p.content.length

theorem length_content {p : KeyPart} {w : Nat} (h : p.width? = some w) : p.content.length = w := by
  cases p <;> simp only [width?, Option.some.injEq, reduceCtorEq] at h
  all_goals
    subst h
    simp [content]

theorem width?_eq_of_tag_eq {a b : KeyPart} (h : a.tag = b.tag) : a.width? = b.width? := by
  cases a <;> cases b <;> first | rfl | exact absurd h (by simp [tag])

theorem prefixed_of_lt {body : Bytes} (h : body.length < 0x100000000) :
    prefixed body = .ok (Bytes.bigEndian 4 body.length ++ body) :=
  if_pos h

theorem encode_of_fits {p : KeyPart} (h : p.Fits) :
    p.encode = .ok (p.tag :: (p.lengthField ++ p.content)) := by
  have hbody : p.body = .ok (p.lengthField ++ p.content) := by
    cases p with
    | bool | int | uint | float | hashed => rfl
    | text | bytes | json => exact prefixed_of_lt (h rfl)
  simp [encode, hbody, bind, Except.bind, pure, Except.pure]

def tupleBytes (ps : List KeyPart) : Bytes :=
  ps.flatMap fun p => p.tag :: (p.lengthField ++ p.content)

theorem encodeTuple_of_fits {ps : List KeyPart} (h : ∀ p ∈ ps, p.Fits) :
    encodeTuple ps = .ok (tupleBytes ps) := by
  induction ps with
  | nil => rfl
  | cons p rest ih =>
    have hp := encode_of_fits (h p List.mem_cons_self)
    have hrest := ih fun q hq => h q (List.mem_cons_of_mem p hq)
    simp [encodeTuple, hp, hrest, bind, Except.bind, pure, Except.pure, tupleBytes]

theorem bigEndian_word64 (x y : UInt64) :
    Bytes.bigEndian 8 x.toNat = Bytes.bigEndian 8 y.toNat ↔ x = y := by
  have hx : x.toNat < Bytes.wordCount 8 := x.toNat_lt
  have hy : y.toNat < Bytes.wordCount 8 := y.toNat_lt
  exact ⟨fun h => UInt64.toNat_inj.1 (Bytes.bigEndian_inj_of_lt hx hy h), fun h => by rw [h]⟩

theorem bigEndian_word32 (x y : UInt32) :
    Bytes.bigEndian 4 x.toNat = Bytes.bigEndian 4 y.toNat ↔ x = y := by
  have hx : x.toNat < Bytes.wordCount 4 := x.toNat_lt
  have hy : y.toNat < Bytes.wordCount 4 := y.toNat_lt
  exact ⟨fun h => UInt32.toNat_inj.1 (Bytes.bigEndian_inj_of_lt hx hy h), fun h => by rw [h]⟩

theorem toUInt64_eq_iff (m n : Int64) : m.toUInt64 = n.toUInt64 ↔ m = n := by
  cases m
  cases n
  simp

theorem ofText_canonical (v w : Json) :
    Bytes.ofText v.canonical = Bytes.ofText w.canonical ↔ v.canonical = w.canonical :=
  ⟨Bytes.ofText_inj, fun h => by rw [h]⟩

section Content

variable {a b : KeyPart} {r s : Bytes}

/-- Values have the same content when the same is written of them. -/
theorem sameContent_iff : SameContent a b ↔ a.tag = b.tag ∧ a.content = b.content := by
  cases a <;> cases b <;>
    simp [SameContent, tag, content, bigEndian_word64, bigEndian_word32, ofText_canonical,
      toUInt64_eq_iff]
  case bool.bool x y => cases x <;> cases y <;> decide

instance : Decidable (SameContent a b) :=
  decidable_of_iff _ sameContent_iff.symm

theorem length_content_eq (ha : a.Fits) (hb : b.Fits) (ht : a.tag = b.tag)
    (h : a.lengthField ++ a.content ++ r = b.lengthField ++ b.content ++ s) :
    a.lengthField.length = b.lengthField.length ∧ a.content.length = b.content.length := by
  have hw := width?_eq_of_tag_eq ht
  cases hwa : a.width? with
  | some w =>
    have hwb : b.width? = some w := by rw [← hw, hwa]
    simp [lengthField, hwa, hwb, length_content hwa, length_content hwb]
  | none =>
    have hwb : b.width? = none := by rw [← hw, hwa]
    simp only [lengthField, hwa, hwb, List.append_assoc] at h
    have hlen : (Bytes.bigEndian 4 a.content.length).length =
        (Bytes.bigEndian 4 b.content.length).length := by
      rw [Bytes.length_bigEndian, Bytes.length_bigEndian]
    have hfield := (List.append_inj h hlen).1
    refine ⟨by simp [lengthField, hwa, hwb], ?_⟩
    have hla : a.content.length < Bytes.wordCount 4 := ha hwa
    have hlb : b.content.length < Bytes.wordCount 4 := hb hwb
    exact Bytes.bigEndian_inj_of_lt hla hlb hfield

/-- An encoding ends where it ends whatever comes behind it. -/
theorem encode_append_inj (ha : a.Fits) (hb : b.Fits)
    (h : a.tag :: (a.lengthField ++ a.content) ++ r = b.tag :: (b.lengthField ++ b.content) ++ s) :
    SameContent a b ∧ r = s := by
  rw [List.cons_append, List.cons_append, List.cons.injEq] at h
  obtain ⟨ht, h⟩ := h
  obtain ⟨hfield, hcontent⟩ := length_content_eq ha hb ht h
  obtain ⟨hbody, hrs⟩ := List.append_inj h (by simp [hfield, hcontent])
  exact ⟨sameContent_iff.2 ⟨ht, (List.append_inj hbody hfield).2⟩, hrs⟩

theorem SameContent.encoding (h : SameContent a b) :
    a.tag :: (a.lengthField ++ a.content) = b.tag :: (b.lengthField ++ b.content) := by
  obtain ⟨ht, hc⟩ := sameContent_iff.1 h
  simp [lengthField, width?_eq_of_tag_eq ht, ht, hc]

end Content

section Tuple

variable {as bs : List KeyPart}

theorem tupleBytes_eq_iff (ha : ∀ p ∈ as, p.Fits) (hb : ∀ p ∈ bs, p.Fits) :
    tupleBytes as = tupleBytes bs ↔ List.Forall₂ SameContent as bs := by
  constructor
  · intro h
    induction as generalizing bs with
    | nil =>
      cases bs with
      | nil => exact .nil
      | cons b rest => simp [tupleBytes] at h
    | cons a as ih =>
      cases bs with
      | nil => simp [tupleBytes] at h
      | cons b bs =>
        simp only [List.forall_mem_cons] at ha hb
        obtain ⟨hab, hrest⟩ := encode_append_inj ha.1 hb.1 h
        exact .cons hab (ih ha.2 hb.2 hrest)
  · intro h
    clear ha hb
    induction h with
    | nil => rfl
    | cons hab _ ih =>
      simp only [tupleBytes, List.flatMap_cons] at ih ⊢
      rw [hab.encoding, ih]

/-- Tuples that fit have encodings, which are equal just when the tuples agree place by place. -/
theorem encodeTuple_eq_iff_sameContent (ha : ∀ p ∈ as, p.Fits) (hb : ∀ p ∈ bs, p.Fits) :
    ∃ x y, encodeTuple as = .ok x ∧ encodeTuple bs = .ok y ∧
      (x = y ↔ List.Forall₂ SameContent as bs) :=
  ⟨_, _, encodeTuple_of_fits ha, encodeTuple_of_fits hb, tupleBytes_eq_iff ha hb⟩

theorem encodeTuple_moved :
    (∀ p ∈ [.text "ab", .bytes [99]], Fits p) ∧ (∀ p ∈ [.text "a", .bytes [98, 99]], Fits p) ∧
      ∃ x y, encodeTuple [.text "ab", .bytes [99]] = .ok x ∧
        encodeTuple [.text "a", .bytes [98, 99]] = .ok y ∧ x ≠ y := by
  have ha : ∀ p ∈ [.text "ab", .bytes [99]], Fits p := by decide
  have hb : ∀ p ∈ [.text "a", .bytes [98, 99]], Fits p := by decide
  obtain ⟨x, y, hx, hy, h⟩ := encodeTuple_eq_iff_sameContent ha hb
  refine ⟨ha, hb, x, y, hx, hy, fun hxy => ?_⟩
  cases h.1 hxy with
  | cons hab _ => exact absurd hab (by decide)

end Tuple

end CacheAside.KeyPart
