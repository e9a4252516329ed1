import CacheAside.Key.Basic
import CacheAside.Proofs.Json.Canonical
import CacheAside.Proofs.Json.Distinct
import CacheAside.Proofs.Key.Unambiguous

set_option autoImplicit false

namespace CacheAside

namespace KeyPart

/-- The zeros inside two JSON values have the signs of their counterparts. -/
def SignsAgree : KeyPart → KeyPart → Prop
  | .json a, .json b => a.alike b = true
  | _, _ => True

def Distinct : KeyPart → Prop
  | .json v => v.Distinct
  | _ => True

theorem sameTuple_iff {as bs : List KeyPart} :
    sameTuple as bs = true ↔ List.Forall₂ (fun a b => a.same b = true) as bs := by
  induction as generalizing bs with
  | nil => cases bs <;> simp [sameTuple]
  | cons a as ih => cases bs <;> simp [sameTuple, ih]

section Value

variable {a b : KeyPart}

/-- What is written of equal values differs only in the zeros of JSON values. -/
theorem sameContent_iff_signsAgree (ha : a.Distinct) (hb : b.Distinct) (h : a.same b = true) :
    SameContent a b ↔ SignsAgree a b := by
  cases a <;> cases b <;> simp only [same, Bool.false_eq_true] at h
  case json.json v w => exact Json.canonical_eq_iff ha hb h
  case float.float x y =>
    have hbits := congrArg Binary64.bits (Binary64.unsignedZero_eq_of_same h)
    simp [SameContent, SignsAgree, hbits]
  all_goals
    rw [beq_iff_eq] at h
    simp [SameContent, SignsAgree, h]

theorem SameContent.body_eq (h : SameContent a b) : a.body = b.body := by
  cases a <;> cases b <;> simp only [SameContent] at h <;> simp [body, h]

theorem SameContent.encode_eq (h : SameContent a b) : a.encode = b.encode := by
  rw [encode, encode, h.body_eq, (sameContent_iff.1 h).1]

end Value

section Tuple

variable {as bs : List KeyPart}

theorem encodeTuple_eq_of_sameContent (h : List.Forall₂ SameContent as bs) :
    encodeTuple as = encodeTuple bs := by
  induction h with
  | nil => rfl
  | cons hab _ ih => rw [encodeTuple, encodeTuple, hab.encode_eq, ih]

theorem sameContent_iff_signsAgree_tuple (h : sameTuple as bs = true)
    (ha : ∀ p ∈ as, p.Distinct) (hb : ∀ p ∈ bs, p.Distinct) :
    List.Forall₂ SameContent as bs ↔ List.Forall₂ SignsAgree as bs := by
  have hiff : List.Forall₂ (fun a b => SameContent a b ↔ SignsAgree a b) as bs :=
    Json.forall₂_imp_mem (sameTuple_iff.1 h) fun a hma b hmb hab =>
      sameContent_iff_signsAgree (ha a hma) (hb b hmb) hab
  exact ⟨hiff.mp fun _ _ hab => hab.1, hiff.mp fun _ _ hab => hab.2⟩

/-- Equal tuples have one encoding and one key if the zeros inside their JSON values agree in
sign, and only then one encoding if they fit. -/
theorem encodeTuple_eq_iff_signsAgree (h : sameTuple as bs = true)
    (ha : ∀ p ∈ as, p.Distinct) (hb : ∀ p ∈ bs, p.Distinct) :
    (List.Forall₂ SignsAgree as bs →
      encodeTuple as = encodeTuple bs ∧ Key.derive as = Key.derive bs) ∧
    ((∀ p ∈ as, p.Fits) → (∀ p ∈ bs, p.Fits) →
      (encodeTuple as = encodeTuple bs ↔ List.Forall₂ SignsAgree as bs)) := by
  have hiff := sameContent_iff_signsAgree_tuple h ha hb
  refine ⟨fun hsigns => ?_, fun hfa hfb => ?_⟩
  · have hencode := encodeTuple_eq_of_sameContent (hiff.2 hsigns)
    exact ⟨hencode, Key.derive_eq_of_encodeTuple_eq hencode⟩
  · rw [encodeTuple_of_fits hfa, encodeTuple_of_fits hfb, Except.ok.injEq,
      tupleBytes_eq_iff hfa hfb, hiff]

end Tuple

/-- The two zeros, alone inside JSON, are equal and have two encodings and two keys. -/
theorem zeros_apart :
    sameTuple [.json (.float ⟨0⟩)] [.json (.float ⟨0x8000000000000000⟩)] = true ∧
      encodeTuple [.json (.float ⟨0⟩)] ≠ encodeTuple [.json (.float ⟨0x8000000000000000⟩)] ∧
        Key.derive [.json (.float ⟨0⟩)] ≠ Key.derive [.json (.float ⟨0x8000000000000000⟩)] := by
  have hplus : encodeTuple [.json (.float ⟨0⟩)] = .ok [7, 0, 0, 0, 3, 48, 46, 48] := rfl
  have hminus : encodeTuple [.json (.float ⟨0x8000000000000000⟩)] =
      .ok [7, 0, 0, 0, 4, 45, 48, 46, 48] := rfl
  have hplusKey : Key.derive [.json (.float ⟨0⟩)] = .ok ⟨-7101814522425937280⟩ := rfl
  have hminusKey : Key.derive [.json (.float ⟨0x8000000000000000⟩)] =
      .ok ⟨8427285680266796854⟩ := rfl
  refine ⟨rfl, ?_, ?_⟩
  · rw [hplus, hminus]
    simp
  · rw [hplusKey, hminusKey]
    simp

namespace Reordered

def field : Serial :=
  .list [.double ⟨0x8000000000000000⟩, .int 1]

def left : Json :=
  .object [("b", .list [.float ⟨0x8000000000000000⟩, .int 1]), ("a", .null)]

def right : Json :=
  .object [("a", .null), ("b", .list [.float ⟨0x8000000000000000⟩, .int 1])]

theorem distinct_left : left.Distinct :=
  Serial.distinct_toJson (.record [("b", field), ("a", .unit)]) rfl

theorem distinct_right : right.Distinct :=
  Serial.distinct_toJson (.record [("a", .unit), ("b", field)]) rfl

theorem one_encoding :
    sameTuple [.json left, .float ⟨0⟩] [.json right, .float ⟨0x8000000000000000⟩] = true ∧
      left.Distinct ∧ right.Distinct ∧
        encodeTuple [.json left, .float ⟨0⟩] =
          encodeTuple [.json right, .float ⟨0x8000000000000000⟩] ∧
        Key.derive [.json left, .float ⟨0⟩] =
          Key.derive [.json right, .float ⟨0x8000000000000000⟩] := by
  have h : sameTuple [.json left, .float ⟨0⟩] [.json right, .float ⟨0x8000000000000000⟩] = true :=
    rfl
  have ha : ∀ p ∈ [.json left, .float ⟨0⟩], Distinct p :=
    List.forall_mem_cons.2 ⟨distinct_left, List.forall_mem_singleton.2 trivial⟩
  have hb : ∀ p ∈ [.json right, .float ⟨0x8000000000000000⟩], Distinct p :=
    List.forall_mem_cons.2 ⟨distinct_right, List.forall_mem_singleton.2 trivial⟩
  have hsigns : List.Forall₂ SignsAgree [.json left, .float ⟨0⟩]
      [.json right, .float ⟨0x8000000000000000⟩] := .cons rfl (.cons trivial .nil)
  exact ⟨h, distinct_left, distinct_right, (encodeTuple_eq_iff_signsAgree h ha hb).1 hsigns⟩

end Reordered

end KeyPart

end CacheAside
