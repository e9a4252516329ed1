import CacheAside.Json.Basic
import Mathlib.Data.List.Forall2

set_option autoImplicit false

namespace CacheAside.Json

mutual

def sameBy (eq : Binary64 → Binary64 → Bool) : Json → Json → Bool
  | .null, .null => true
  | .bool a, .bool b => a == b
  | .int a, .int b => a == b
  | .float a, .float b => eq a b
  | .text a, .text b => a == b
  | .list as, .list bs => sameItemsBy eq as bs
  | .object as, .object bs => as.length == bs.length && sameFieldsBy eq as bs
  | _, _ => false

def sameItemsBy (eq : Binary64 → Binary64 → Bool) : List Json → List Json → Bool
  | [], [] => true
  | a :: as, b :: bs => sameBy eq a b && sameItemsBy eq as bs
  | _, _ => false

def sameFieldsBy (eq : Binary64 → Binary64 → Bool) :
    List (String × Json) → List (String × Json) → Bool
  | [], _ => true
  | (n, a) :: as, bs =>
    (match Table.lookup n bs with
      | some b => sameBy eq a b
      | none => false) && sameFieldsBy eq as bs

end

mutual

theorem same_eq_sameBy : ∀ a b : Json, a.same b = a.sameBy Binary64.same b
  | .list as, .list bs => by simp only [same, sameBy, sameItems_eq_sameItemsBy as bs]
  | .object as, .object bs => by simp only [same, sameBy, sameFields_eq_sameFieldsBy as bs]
  | .null, b | .bool _, b | .int _, b | .float _, b | .text _, b => by cases b <;> rfl
  | .list _, .null | .list _, .bool _ | .list _, .int _ | .list _, .float _ | .list _, .text _
  | .list _, .object _ => rfl
  | .object _, .null | .object _, .bool _ | .object _, .int _ | .object _, .float _
  | .object _, .text _ | .object _, .list _ => rfl

theorem sameItems_eq_sameItemsBy :
    ∀ as bs : List Json, sameItems as bs = sameItemsBy Binary64.same as bs
  | [], [] | [], _ :: _ | _ :: _, [] => rfl
  | a :: as, b :: bs => by
    rw [sameItems, sameItemsBy, same_eq_sameBy a b, sameItems_eq_sameItemsBy as bs]

theorem sameFields_eq_sameFieldsBy :
    ∀ as bs : List (String × Json), sameFields as bs = sameFieldsBy Binary64.same as bs
  | [], _ => rfl
  | (n, a) :: as, bs => by
    rw [sameFields, sameFieldsBy, sameFields_eq_sameFieldsBy as bs]
    cases Table.lookup n bs with
    | none => rfl
    | some b => simp only [same_eq_sameBy a b]

end

section

variable {eq : Binary64 → Binary64 → Bool}

theorem sameItemsBy_iff {as bs : List Json} :
    sameItemsBy eq as bs = true ↔ List.Forall₂ (fun a b => a.sameBy eq b = true) as bs := by
  induction as generalizing bs with
  | nil => cases bs <;> simp [sameItemsBy]
  | cons a as ih => cases bs <;> simp [sameItemsBy, ih]

theorem sameFieldsBy_iff {as bs : List (String × Json)} :
    sameFieldsBy eq as bs = true ↔
      ∀ f ∈ as, ∃ b, Table.lookup f.1 bs = some b ∧ f.2.sameBy eq b = true := by
  induction as with
  | nil => simp [sameFieldsBy]
  | cons f as ih =>
    obtain ⟨n, a⟩ := f
    simp only [sameFieldsBy, Bool.and_eq_true, ih, List.forall_mem_cons]
    cases Table.lookup n bs <;> simp

end

/-- Equality as values under which a zero equals no zero of the other sign. -/
def alike (a b : Json) : Bool :=
  a.sameBy (fun x y => x.same y && x.isNegative == y.isNegative) b

/-- The names in an object are distinct, at every level. -/
inductive Distinct : Json → Prop
  | null : Distinct .null
  | bool (b : Bool) : Distinct (.bool b)
  | int (n : Int) : Distinct (.int n)
  | float (x : Binary64) : Distinct (.float x)
  | text (s : String) : Distinct (.text s)
  | list {items : List Json} (each : ∀ v ∈ items, Distinct v) : Distinct (.list items)
  | object {fields : List (String × Json)} (names : (fields.map Prod.fst).Nodup)
    (each : ∀ f ∈ fields, Distinct f.2) : Distinct (.object fields)

end CacheAside.Json
