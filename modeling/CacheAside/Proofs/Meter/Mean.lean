import CacheAside.Meter
import Mathlib.Logic.Function.Iterate
import Mathlib.Tactic.Ring

set_option autoImplicit false

namespace CacheAside

namespace Nanos

theorem div_by_parts (b s r : Nat) {n : Nat} (hn : 0 < n) :
    (s * b + r) / n = s / n * b + (r / n + (s % n * b + r % n) / n) := by
  have hs := Nat.div_add_mod s n
  have hr := Nat.div_add_mod r n
  have hsum : s * b + r = (s % n * b + r % n) + n * (s / n * b + r / n) := by
    nth_rewrite 1 [← hs, ← hr]
    ring
  rw [hsum, Nat.add_mul_div_left _ _ hn]
  omega

theorem left_lt {b n : Nat} (s : Nat) {r : Nat} (hr : r < b) (hn : 0 < n) :
    s % n * b + r % n < n * b := by
  have hs : s % n + 1 ≤ n := Nat.mod_lt s hn
  have hrest : r % n ≤ r := Nat.mod_le r n
  calc s % n * b + r % n < s % n * b + b := by omega
    _ = (s % n + 1) * b := by ring
    _ ≤ n * b := Nat.mul_le_mul_right b hs

/-- No word overflows. -/
theorem dividedBy_eq {d : Nanos} (h : d < limit) {n : UInt32} (hn : 0 < n.toNat) :
    d.dividedBy n = d / n.toNat := by
  have hnlt : n.toNat < 2 ^ 32 := n.toNat_lt
  have hrest : d % nanosPerSecond < nanosPerSecond := Nat.mod_lt _ (by decide)
  have hleft := left_lt (d / nanosPerSecond) hrest hn
  have hseconds : (UInt64.ofNat (d / nanosPerSecond)).toNat = d / nanosPerSecond := by
    rw [limit, Nat.mul_comm] at h
    exact UInt64.toNat_ofNat_of_lt' (Nat.div_lt_of_lt_mul h)
  have hnanos : (UInt32.ofNat (d % nanosPerSecond)).toNat = d % nanosPerSecond :=
    UInt32.toNat_ofNat_of_lt' (Nat.lt_trans hrest (by decide))
  have hleftWord : (UInt64.ofNat (d / nanosPerSecond) % n.toUInt64 * 1000000000
      + (UInt32.ofNat (d % nanosPerSecond) % n).toUInt64).toNat =
        d / nanosPerSecond % n.toNat * nanosPerSecond + d % nanosPerSecond % n.toNat := by
    have hbound : n.toNat * nanosPerSecond < 2 ^ 64 := by
      rw [nanosPerSecond]
      omega
    have hfits := Nat.lt_trans hleft hbound
    have hbillion : (1000000000 : UInt64).toNat = nanosPerSecond := rfl
    rw [UInt64.toNat_add, UInt64.toNat_mul, UInt64.toNat_mod, UInt32.toNat_toUInt64,
      UInt32.toNat_toUInt64, UInt32.toNat_mod, hseconds, hnanos, hbillion,
      Nat.mod_eq_of_lt (Nat.lt_of_le_of_lt (Nat.le_add_right _ _) hfits), Nat.mod_eq_of_lt hfits]
  have hquotient := Nat.div_lt_of_lt_mul hleft
  have hshare : d % nanosPerSecond / n.toNat < nanosPerSecond :=
    Nat.lt_of_le_of_lt (Nat.div_le_self _ _) hrest
  have hword : nanosPerSecond + nanosPerSecond < 2 ^ 32 := by decide
  have hsplit : d = d / nanosPerSecond * nanosPerSecond + d % nanosPerSecond := by
    rw [Nat.mul_comm, Nat.div_add_mod]
  conv_rhs => rw [hsplit, div_by_parts _ _ _ hn]
  simp only [dividedBy]
  rw [UInt64.toNat_div, hseconds, UInt32.toNat_toUInt64, UInt32.toNat_add, UInt32.toNat_div, hnanos,
    UInt64.toNat_toUInt32, UInt64.toNat_div, hleftWord, UInt32.toNat_toUInt64,
    Nat.mod_eq_of_lt (Nat.lt_trans hquotient (by decide)),
    Nat.mod_eq_of_lt (Nat.lt_trans (Nat.add_lt_add hshare hquotient) hword)]

end Nanos

/-- Cutting a divisor to its remainder leaves a quotient as it is only if nothing is cut off, or if
the quotient is zero. -/
theorem div_mod_eq_div_iff {t c b : Nat} (hb : 0 < b) (hlow : 0 < c % b) :
    t / (c % b) = t / c ↔ c < b ∨ t < c % b := by
  constructor
  · intro heq
    by_contra hcut
    rw [not_or, Nat.not_lt, Nat.not_lt] at hcut
    obtain ⟨hcut, hle⟩ := hcut
    have hsmall : c % b < b := Nat.mod_lt c hb
    have hwhole : b + c % b ≤ c := by
      have hdiv := Nat.div_add_mod c b
      have := Nat.mul_le_mul_left b (Nat.div_pos hcut hb)
      omega
    have hone : 1 ≤ t / (c % b) := Nat.div_pos hle hlow
    have hmul : c * (t / c) ≤ t := Nat.mul_div_le t c
    have hlt : t < c % b * (t / (c % b)) + c % b := by
      have := Nat.lt_mul_div_succ t hlow
      rwa [Nat.mul_add, Nat.mul_one] at this
    rw [← heq] at hmul
    generalize t / (c % b) = m at *
    have hparts := Nat.mul_le_mul_right m hwhole
    have hcutoff := Nat.le_mul_of_pos_right b hone
    rw [Nat.add_mul] at hparts
    omega
  · rintro (hlt | hlt)
    · rw [Nat.mod_eq_of_lt hlt]
    · rw [Nat.div_eq_of_lt hlt, Nat.div_eq_of_lt (Nat.lt_of_lt_of_le hlt (Nat.mod_le c b))]

namespace Stat

variable {s : Stat}

def lowHalf (s : Stat) : Nat :=
  s.count.toNat % 2 ^ 32

theorem lowHalf_le (s : Stat) : s.lowHalf ≤ s.count.toNat :=
  Nat.mod_le _ _

theorem mean_cases (h : s.total < Nanos.limit) :
    s.count.toNat = 0 ∧ s.mean = .ok none ∨
      0 < s.count.toNat ∧ s.lowHalf = 0 ∧
        s.mean = .error "divide by zero error when dividing duration by scalar" ∨
      0 < s.lowHalf ∧ s.mean = .ok (some (s.total / s.lowHalf)) := by
  have hnone : s.count = 0 ↔ s.count.toNat = 0 := UInt64.toNat_inj.symm
  have hlow : s.count.toUInt32.toNat = s.lowHalf := s.count.toNat_toUInt32
  have hzero : s.count.toUInt32 = 0 ↔ s.lowHalf = 0 := by
    rw [← hlow]
    exact UInt32.toNat_inj.symm
  rw [mean, if_congr hnone rfl rfl, if_congr hzero rfl rfl]
  split
  · exact .inl ⟨‹_›, rfl⟩
  · split
    · exact .inr (.inl ⟨by omega, ‹_›, rfl⟩)
    · refine .inr (.inr ⟨by omega, ?_⟩)
      rw [Nanos.dividedBy_eq h (by omega), hlow]

/-- The total divided by the count, rounded down. -/
structure IsMean (s : Stat) (m : Nanos) : Prop where
  eq_div : m = s.total / s.count.toNat
  le_total : m ≤ s.total
  mul_le : s.count.toNat * m ≤ s.total
  lt_mul_add : s.total < s.count.toNat * m + s.count.toNat

theorem isMean_iff (h : 0 < s.count.toNat) {m : Nanos} :
    s.IsMean m ↔ m = s.total / s.count.toNat := by
  refine ⟨IsMean.eq_div, fun hm => ⟨hm, ?_, ?_, ?_⟩⟩
  · exact hm ▸ Nat.div_le_self _ _
  · exact hm ▸ Nat.mul_div_le _ _
  · have := Nat.lt_mul_div_succ s.total h
    rwa [Nat.mul_add, Nat.mul_one, ← hm] at this

/-- There is no mean without occurrences. With occurrences the total is divided by the low half of
their number, which crashes if that is zero; this is the true mean just when the number fits 32 bits
or the total is below the low half. -/
theorem mean_true_iff (h : s.total < Nanos.limit) :
    (s.mean = .ok none ↔ s.count.toNat = 0) ∧
      (∀ m, s.mean = .ok (some m) ↔ 0 < s.lowHalf ∧ m = s.total / s.lowHalf) ∧
      ((∃ text, s.mean = .error text) ↔ 0 < s.count.toNat ∧ s.lowHalf = 0) ∧
      ((∃ m, s.mean = .ok (some m) ∧ s.IsMean m) ↔
        0 < s.count.toNat ∧ (s.count.toNat < 2 ^ 32 ∨ s.total < s.lowHalf)) := by
  have hle := s.lowHalf_le
  obtain ⟨hnone, hmean⟩ | ⟨hpos, hlow, hmean⟩ | ⟨hlow, hmean⟩ := mean_cases h
  · have hlow : s.lowHalf = 0 := by omega
    simp [hmean, hnone, hlow]
  · have hbig : ¬ s.count.toNat < 2 ^ 32 := fun hlt => by
      rw [lowHalf, Nat.mod_eq_of_lt hlt] at hlow
      omega
    simp only [hmean, hlow, hpos, hpos.ne', hbig]
    simp
  · have hpos : 0 < s.count.toNat := by omega
    have htrue : s.IsMean (s.total / s.lowHalf) ↔ s.count.toNat < 2 ^ 32 ∨ s.total < s.lowHalf :=
      (isMean_iff hpos).trans (div_mod_eq_div_iff (by decide) hlow)
    simp [hmean, hlow, hpos, hpos.ne', hlow.ne', htrue, eq_comm]

theorem mean_of_longest :
    (⟨4294967295, Nanos.limit - 1⟩ : Stat).total < Nanos.limit ∧
      ∃ m, (⟨4294967295, Nanos.limit - 1⟩ : Stat).mean = .ok (some m) ∧
        (⟨4294967295, Nanos.limit - 1⟩ : Stat).IsMean m := by
  have short : (⟨4294967295, Nanos.limit - 1⟩ : Stat).total < Nanos.limit := by decide
  obtain ⟨-, -, -, htrue⟩ := mean_true_iff short
  exact ⟨short, htrue.2 ⟨by decide, .inl (by decide)⟩⟩

end Stat

namespace Meter.Worn

theorem figures_iterate (signal : Signal) (n : Nat) :
    let m := (fun m : Meter => m.record signal 1)^[n] zero
    m.count signal = UInt64.ofNat n ∧ m.total signal = UInt64.ofNat n := by
  induction n with
  | zero => exact ⟨rfl, rfl⟩
  | succ n ih =>
    rw [Function.iterate_succ_apply']
    have hone : capped 1 = 1 := rfl
    simp [ih, hone]

def finds (n : Nat) : Meter :=
  (fun m => m.record .find 1)^[n] zero

theorem stat_finds {n : Nat} (h : n < 2 ^ 64) :
    (finds n).stat .find = ⟨UInt64.ofNat n, n⟩ := by
  obtain ⟨hcount, htotal⟩ := figures_iterate .find n
  rw [stat, finds, hcount, htotal, UInt64.toNat_ofNat_of_lt' h]

theorem finds_without_true_mean :
    ((finds 4294967296).stat .find).mean =
        .error "divide by zero error when dividing duration by scalar" ∧
      ((finds 4294967297).stat .find).mean = .ok (some 4294967297) ∧
      ¬ ((finds 4294967297).stat .find).IsMean 4294967297 := by
  rw [stat_finds (by decide), stat_finds (by decide)]
  refine ⟨rfl, rfl, fun h => ?_⟩
  exact absurd h.eq_div (by decide)

end Meter.Worn

end CacheAside
