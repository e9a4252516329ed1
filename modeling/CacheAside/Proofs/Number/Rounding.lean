import CacheAside.Number.Shortest
import Mathlib.Algebra.Order.Field.Power
import Mathlib.Data.Rat.Cast.Order
import Mathlib.Tactic.FieldSimp
import Mathlib.Tactic.Linarith
import Mathlib.Tactic.Ring

set_option autoImplicit false

namespace CacheAside

@[simp] theorem cast_twoTo (n : Nat) : ((twoTo n : Nat) : ℚ) = 2 ^ n := by
  simp [twoTo]

@[simp] theorem cast_tenTo (n : Nat) : ((tenTo n : Nat) : ℚ) = 10 ^ n := by
  simp [tenTo]

theorem pow_toNat_div (b : ℚ) (hb : b ≠ 0) (e : Int) : b ^ e.toNat / b ^ (-e).toNat = b ^ e := by
  rw [← zpow_natCast, ← zpow_natCast, ← zpow_sub₀ hb]
  congr 1
  omega

namespace Interval

variable {v : Interval} {n d : Nat}

def lower (v : Interval) : ℚ :=
  v.low / v.den

def middle (v : Interval) : ℚ :=
  v.mid / v.den

def upper (v : Interval) : ℚ :=
  v.high / v.den

def Has (v : Interval) (x : ℚ) : Prop :=
  if v.closed then v.lower ≤ x ∧ x ≤ v.upper else v.lower < x ∧ x < v.upper

theorem Has.of_between {x : ℚ} (hlow : v.lower < x) (hhigh : x < v.upper) : v.Has x := by
  unfold Has
  split
  · exact ⟨hlow.le, hhigh.le⟩
  · exact ⟨hlow, hhigh⟩

theorem Has.le {x : ℚ} (h : v.Has x) : v.lower ≤ x ∧ x ≤ v.upper := by
  unfold Has at h
  split at h
  · exact h
  · exact ⟨h.1.le, h.2.le⟩

theorem Has.closed {x : ℚ} (h : v.Has x) (hend : x = v.lower ∨ x = v.upper) : v.closed = true := by
  unfold Has at h
  split at h
  · assumption
  · rcases hend with rfl | rfl
    · exact absurd h.1 (lt_irrefl _)
    · exact absurd h.2 (lt_irrefl _)

theorem holds_iff (hv : 0 < v.den) (hd : 0 < d) : v.holds n d = true ↔ v.Has (n / d) := by
  have hv' : (0 : ℚ) < v.den := by exact_mod_cast hv
  have hd' : (0 : ℚ) < d := by exact_mod_cast hd
  have hle (a : Nat) : (a / v.den : ℚ) ≤ n / d ↔ a * d ≤ n * v.den := by
    rw [div_le_div_iff₀ hv' hd']
    exact_mod_cast Iff.rfl
  have hge (a : Nat) : (n / d : ℚ) ≤ a / v.den ↔ n * v.den ≤ a * d := by
    rw [div_le_div_iff₀ hd' hv']
    exact_mod_cast Iff.rfl
  have hlt (a : Nat) : (a / v.den : ℚ) < n / d ↔ a * d < n * v.den := by
    rw [div_lt_div_iff₀ hv' hd']
    exact_mod_cast Iff.rfl
  have hgt (a : Nat) : (n / d : ℚ) < a / v.den ↔ n * v.den < a * d := by
    rw [div_lt_div_iff₀ hd' hv']
    exact_mod_cast Iff.rfl
  unfold holds Has lower upper
  split <;> simp only [Bool.and_eq_true, decide_eq_true_eq, hle, hge, hlt, hgt]

end Interval

theorem scaleRatio_pos {n d : Nat} (hd : 0 < d) (e : Int) : 0 < (scaleRatio n d e).2 :=
  Nat.mul_pos hd (tenTo_pos _)

theorem scaleRatio_div (n d : Nat) (e : Int) :
    ((scaleRatio n d e).1 : ℚ) / (scaleRatio n d e).2 = n / d * 10 ^ e := by
  rw [scaleRatio, ← pow_toNat_div 10 (by norm_num) e]
  push_cast [cast_tenTo]
  rw [mul_div_mul_comm]

namespace BinaryFormat

variable (f : BinaryFormat)

/-- The interval of a magnitude pattern. -/
def intervalOf (a : Nat) : Interval :=
  f.interval (f.decode a).1 (f.decode a).2

theorem den_interval_pos (m : Nat) (e : Int) : 0 < (f.interval m e).den :=
  Nat.mul_pos (by decide) (twoTo_pos _)

theorem scaled_div (n : Nat) (e : Int) :
    ((n * twoTo e.toNat : Nat) : ℚ) / ((4 * twoTo (-e).toNat : Nat) : ℚ) = n / 4 * 2 ^ e := by
  rw [← pow_toNat_div 2 (by norm_num) e]
  push_cast [cast_twoTo]
  rw [mul_div_mul_comm]

theorem upper_interval (m : Nat) (e : Int) : (f.interval m e).upper = (m + 1 / 2) * 2 ^ e := by
  rw [Interval.upper]
  simp only [interval]
  rw [scaled_div]
  push_cast
  ring

theorem middle_interval (m : Nat) (e : Int) : (f.interval m e).middle = m * 2 ^ e := by
  rw [Interval.middle]
  simp only [interval]
  rw [scaled_div]
  push_cast
  ring

theorem lower_interval {m : Nat} (hm : 0 < m) (e : Int) : (f.interval m e).lower =
    (m - if m = twoTo f.fractionBits ∧ f.lowest < e then 1 / 4 else 1 / 2) * 2 ^ e := by
  rw [Interval.lower]
  simp only [interval]
  rw [scaled_div]
  split
  · rw [Nat.cast_sub (by omega)]
    push_cast
    ring
  · rw [Nat.cast_sub (by omega)]
    push_cast
    ring

variable {f}

theorem decode_pos {a : Nat} (ha : 0 < a) : 0 < (f.decode a).1 := by
  have hdiv := Nat.div_add_mod a (twoTo f.fractionBits)
  simp only [decode]
  split
  · rename_i hfield
    rw [hfield, Nat.mul_zero] at hdiv
    dsimp only
    omega
  · exact Nat.add_pos_right _ (twoTo_pos _)

theorem decode_snd_ge (a : Nat) : f.lowest ≤ (f.decode a).2 := by
  simp only [decode]
  split
  · exact Int.le_refl _
  · dsimp only
    omega

theorem decode_succ_of_lt {a : Nat} (h : a % twoTo f.fractionBits + 1 < twoTo f.fractionBits) :
    f.decode (a + 1) = ((f.decode a).1 + 1, (f.decode a).2) := by
  have hnext : (a + 1) / twoTo f.fractionBits = a / twoTo f.fractionBits ∧
      (a + 1) % twoTo f.fractionBits = a % twoTo f.fractionBits + 1 := by
    have hdiv := Nat.div_add_mod a (twoTo f.fractionBits)
    rw [Nat.div_mod_unique (twoTo_pos _)]
    omega
  simp only [decode, hnext.1, hnext.2]
  split
  · rfl
  · rw [Nat.add_right_comm]

theorem decode_succ_of_eq {a : Nat} (h : a % twoTo f.fractionBits + 1 = twoTo f.fractionBits) :
    (f.decode (a + 1)).1 = twoTo f.fractionBits ∧
      ((f.decode a).1 + 1 = twoTo f.fractionBits ∧ (f.decode a).2 = f.lowest ∧
          (f.decode (a + 1)).2 = f.lowest ∨
        (f.decode a).1 + 1 = 2 * twoTo f.fractionBits ∧
          (f.decode (a + 1)).2 = (f.decode a).2 + 1) := by
  have hnext : (a + 1) / twoTo f.fractionBits = a / twoTo f.fractionBits + 1 ∧
      (a + 1) % twoTo f.fractionBits = 0 := by
    have hdiv := Nat.div_add_mod a (twoTo f.fractionBits)
    rw [Nat.div_mod_unique (twoTo_pos _), Nat.mul_add]
    omega
  simp only [decode, hnext.1, hnext.2, Nat.succ_ne_zero, if_false, Nat.zero_add, true_and]
  generalize a / twoTo f.fractionBits = field
  by_cases hfield : field = 0
  · rw [if_pos hfield, hfield]
    exact .inl ⟨h, rfl, by simp⟩
  · rw [if_neg hfield]
    exact .inr ⟨by dsimp only; omega, by dsimp only; omega⟩

/-- An interval ends where the next one begins. -/
theorem upper_eq_lower_succ (a : Nat) : (f.intervalOf a).upper = (f.intervalOf (a + 1)).lower := by
  have hT := twoTo_pos f.fractionBits
  have hlow := f.decode_snd_ge a
  rw [intervalOf, intervalOf, upper_interval, lower_interval _ (decode_pos a.succ_pos)]
  rcases Nat.lt_or_eq_of_le (Nat.succ_le_of_lt (Nat.mod_lt a hT)) with h | h
  · have hne : (f.decode a).1 + 1 ≠ twoTo f.fractionBits ∨ (f.decode a).2 = f.lowest := by
      simp only [decode]
      split
      · exact .inr rfl
      · exact .inl (by dsimp only; omega)
    rw [decode_succ_of_lt h, if_neg fun hnear => ?_]
    · push_cast
      ring
    · rcases hne with hne | hne
      · exact hne hnear.1
      · exact absurd hnear.2 (by rw [hne]; exact lt_irrefl _)
  · obtain ⟨hm, ⟨hlast, hsub, hnext⟩ | ⟨hlast, hnext⟩⟩ := decode_succ_of_eq h
    · rw [hm, hnext, hsub, if_neg (by simp), ← hlast]
      push_cast
      ring
    · rw [hm, hnext, if_pos ⟨rfl, by omega⟩, zpow_add_one₀ (by norm_num)]
      have hcast : ((f.decode a).1 : ℚ) + 1 = 2 * (twoTo f.fractionBits : ℚ) := by
        exact_mod_cast hlast
      rw [show ((f.decode a).1 : ℚ) = 2 * (twoTo f.fractionBits : ℚ) - 1 by linarith]
      ring

theorem middle_between {a : Nat} (ha : 0 < a) :
    (f.intervalOf a).lower + 2 ^ (f.decode a).2 / 4 ≤ (f.intervalOf a).middle ∧
      (f.intervalOf a).middle < (f.intervalOf a).upper := by
  have hpow : (0 : ℚ) < 2 ^ (f.decode a).2 := zpow_pos (by norm_num) _
  rw [intervalOf, upper_interval, middle_interval, lower_interval _ (decode_pos ha)]
  constructor
  · split <;> linarith
  · linarith

theorem lower_lt_upper {a : Nat} (ha : 0 < a) :
    (f.intervalOf a).lower < (f.intervalOf a).upper := by
  have hpow : (0 : ℚ) < 2 ^ (f.decode a).2 := zpow_pos (by norm_num) _
  obtain ⟨hlow, hhigh⟩ := middle_between (f := f) ha
  linarith

theorem closed_intervalOf (hf : 0 < f.fractionBits) (a : Nat) :
    (f.intervalOf a).closed = decide (a % 2 = 0) := by
  obtain ⟨n, hn⟩ : ∃ n, twoTo f.fractionBits = 2 * n := by
    obtain ⟨k, hk⟩ := Nat.exists_eq_succ_of_ne_zero (Nat.ne_of_gt hf)
    exact ⟨twoTo k, by rw [hk, Nat.succ_eq_add_one, twoTo_succ, Nat.mul_comm]⟩
  have hdiv := Nat.div_add_mod a (twoTo f.fractionBits)
  have hparity : (f.decode a).1 % 2 = a % 2 := by
    simp only [decode]
    rw [hn] at hdiv ⊢
    rw [Nat.mul_assoc] at hdiv
    split <;> (dsimp only; omega)
  simp only [intervalOf, interval, hparity]

theorem upper_lt_lower {a b : Nat} (h : a + 1 < b) :
    (f.intervalOf a).upper < (f.intervalOf b).lower := by
  induction b, h using Nat.le_induction with
  | base =>
    rw [upper_eq_lower_succ]
    exact (lower_lt_upper a.succ_pos).trans_eq (upper_eq_lower_succ (a + 1))
  | succ b hb ih =>
    exact ih.trans ((lower_lt_upper (by omega)).trans_eq (upper_eq_lower_succ b))

/-- No number rounds to two patterns. -/
theorem intervalOf_disjoint (hf : 0 < f.fractionBits) {a b : Nat} {x : ℚ}
    (ha : (f.intervalOf a).Has x) (hb : (f.intervalOf b).Has x) : a = b := by
  have apart {a b : Nat} (ha : (f.intervalOf a).Has x) (hb : (f.intervalOf b).Has x) : ¬ a < b := by
    intro hlt
    rcases Nat.lt_or_eq_of_le (Nat.succ_le_of_lt hlt) with hfar | rfl
    · linarith [ha.le.2, hb.le.1, upper_lt_lower (f := f) hfar]
    · -- Neighbours share an end, and one of them is odd.
      have hshared := upper_eq_lower_succ (f := f) a
      have hx : x = (f.intervalOf a).upper :=
        le_antisymm ha.le.2 (hshared.trans_le hb.le.1)
      have heven := ha.closed (.inr hx)
      have heven' := hb.closed (.inl (hx.trans hshared))
      rw [closed_intervalOf hf, decide_eq_true_eq] at heven heven'
      omega
  exact Nat.le_antisymm (Nat.not_lt.1 (apart hb ha)) (Nat.not_lt.1 (apart ha hb))

end BinaryFormat

end CacheAside
