set_option autoImplicit false

namespace CacheAside

abbrev Bytes := List UInt8

namespace Bytes

def wordCount : Nat → Nat
  | 0 => 1
  | width + 1 => 256 * wordCount width

/-- The low `width` bytes of a number, the highest first. -/
def bigEndian : Nat → Nat → Bytes
  | 0, _ => []
  | width + 1, n => UInt8.ofNat (n / wordCount width) :: bigEndian width n

def littleEndian : Nat → Nat → Bytes
  | 0, _ => []
  | width + 1, n => UInt8.ofNat n :: littleEndian width (n / 256)

def ofLittleEndian : Bytes → Nat
  | [] => 0
  | b :: rest => b.toNat + 256 * ofLittleEndian rest

@[simp] theorem length_bigEndian (width n : Nat) : (bigEndian width n).length = width := by
  induction width with
  | zero => rfl
  | succ w ih => simp [bigEndian, ih]

theorem bigEndian_inj {width m n : Nat} (h : bigEndian width m = bigEndian width n) :
    m % wordCount width = n % wordCount width := by
  induction width with
  | zero => simp [wordCount, Nat.mod_one]
  | succ w ih =>
    simp only [bigEndian, List.cons.injEq] at h
    obtain ⟨hd, tl⟩ := h
    have hd' : m / wordCount w % 256 = n / wordCount w % 256 := by
      have := congrArg UInt8.toNat hd
      simpa using this
    rw [wordCount, Nat.mul_comm, Nat.mod_mul, Nat.mod_mul, hd', ih tl]

theorem bigEndian_inj_of_lt {width m n : Nat} (hm : m < wordCount width)
    (hn : n < wordCount width) (h : bigEndian width m = bigEndian width n) : m = n := by
  have := bigEndian_inj h
  rwa [Nat.mod_eq_of_lt hm, Nat.mod_eq_of_lt hn] at this

def ofText (s : String) : Bytes :=
  s.toByteArray.data.toList

theorem ofText_inj {s t : String} (h : ofText s = ofText t) : s = t := by
  apply String.toByteArray_inj.1
  have hd : s.toByteArray.data = t.toByteArray.data := Array.toList_inj.1 h
  cases hs : s.toByteArray
  cases ht : t.toByteArray
  simp_all

end Bytes

end CacheAside
