import CacheAside.Proofs.Number.Rounding
import Mathlib.Data.List.TakeWhile
import Mathlib.Data.Nat.Cast.Order.Field

set_option autoImplicit false

namespace CacheAside

theorem decimalChars_eq_append {n : Nat} (h : 10 ≤ n) :
    decimalChars n = decimalChars (n / 10) ++ [(n % 10).digitChar] :=
  Nat.toDigits_of_base_le (by decide) h

theorem isDigit_of_mem_decimalChars {n : Nat} {c : Char} (h : c ∈ decimalChars n) :
    c.isDigit = true :=
  Nat.isDigit_of_mem_toDigits (by decide) (by decide) h

theorem decimalChars_ne_nil (n : Nat) : decimalChars n ≠ [] :=
  Nat.toDigits_ne_nil

theorem decimalChars_inj {m n : Nat} (h : decimalChars m = decimalChars n) : m = n := by
  have hvalue := congrArg (Nat.ofDigitChars 10 · 0) h
  simpa [decimalChars] using hvalue

theorem head?_decimalChars {n : Nat} (hn : 0 < n) : (decimalChars n).head? ≠ some '0' := by
  induction n using Nat.strongRecOn with
  | ind n ih =>
    rcases Nat.lt_or_ge n 10 with hlt | hge
    · rw [decimalChars, Nat.toDigits_of_lt_base hlt]
      simpa using Nat.ne_of_gt hn
    · rw [decimalChars_eq_append hge, List.head?_append_of_ne_nil _ (decimalChars_ne_nil _)]
      exact ih (n / 10) (by omega) (by omega)

def trimmed (cs : List Char) : List Char :=
  (cs.reverse.dropWhile (· == '0')).reverse

theorem exists_trimmed_append (cs : List Char) : ∃ z, trimmed cs ++ List.replicate z '0' = cs := by
  refine ⟨(cs.reverse.takeWhile (· == '0')).length, ?_⟩
  have hzeros : cs.reverse.takeWhile (· == '0') =
      List.replicate (cs.reverse.takeWhile (· == '0')).length '0' :=
    List.eq_replicate_iff.2 ⟨rfl, fun c hc => by simpa using List.mem_takeWhile_imp hc⟩
  have hsplit := congrArg List.reverse (List.takeWhile_append_dropWhile (p := (· == '0'))
    (l := cs.reverse))
  rwa [List.reverse_append, List.reverse_reverse, hzeros, List.reverse_replicate] at hsplit

theorem getLast?_trimmed (cs : List Char) : (trimmed cs).getLast? ≠ some '0' := by
  rw [trimmed, List.getLast?_reverse]
  intro h
  have := List.head?_dropWhile_not (· == '0') cs.reverse
  simp [h] at this

namespace Decimal

def value (d : Decimal) : ℚ :=
  Nat.ofDigitChars 10 d.digits 0 * 10 ^ (d.leading + 1 - d.digits.length)

/-- Digits of which neither the first nor the last is a zero. -/
structure Trim (d : Decimal) : Prop where
  digits : ∀ c ∈ d.digits, c.isDigit = true
  ne_nil : d.digits ≠ []
  first : d.digits.head? ≠ some '0'
  last : d.digits.getLast? ≠ some '0'

theorem digits_ofScaled (n : Nat) (scale : Int) :
    (ofScaled n scale).digits = trimmed (decimalChars n) := rfl

theorem value_ofScaled (n : Nat) (scale : Int) : (ofScaled n scale).value = n * 10 ^ scale := by
  obtain ⟨z, hz⟩ := exists_trimmed_append (decimalChars n)
  have hvalue : Nat.ofDigitChars 10 (trimmed (decimalChars n)) 0 * 10 ^ z = n := by
    have hall : Nat.ofDigitChars 10 (decimalChars n) 0 = n := Nat.ofDigitChars_ten_toDigits
    rw [← hz, Nat.ofDigitChars_append, Nat.ofDigitChars_replicate_zero] at hall
    rw [Nat.mul_comm]
    exact hall
  have hlength : (trimmed (decimalChars n)).length + z = (decimalChars n).length := by
    simpa using congrArg List.length hz
  have hpos := List.length_pos_of_ne_nil (decimalChars_ne_nil n)
  have hscale : (ofScaled n scale).leading + 1 - (trimmed (decimalChars n)).length = z + scale := by
    simp only [ofScaled]
    omega
  rw [value, digits_ofScaled, hscale, zpow_add₀ (by norm_num), zpow_natCast, ← mul_assoc]
  conv_rhs => rw [← hvalue]
  push_cast
  rfl

theorem trim_ofScaled {n : Nat} (hn : 0 < n) (scale : Int) : (ofScaled n scale).Trim := by
  obtain ⟨z, hz⟩ := exists_trimmed_append (decimalChars n)
  have hne : trimmed (decimalChars n) ≠ [] := by
    intro hnil
    have hhead := head?_decimalChars hn
    rw [← hz, hnil, List.nil_append] at hhead
    cases z with
    | zero => exact decimalChars_ne_nil n (by rw [← hz, hnil]; rfl)
    | succ z => exact hhead rfl
  refine ⟨fun c hc => ?_, hne, ?_, getLast?_trimmed _⟩
  · refine isDigit_of_mem_decimalChars (n := n) ?_
    rw [← hz]
    exact List.mem_append_left _ hc
  · have hhead := head?_decimalChars hn
    rwa [← hz, List.head?_append_of_ne_nil _ hne] at hhead

end Decimal

namespace Interval

variable {v : Interval}

theorem holds_grid (hv : 0 < v.den) (k : Nat) (scale : Int) :
    v.holds (scaleRatio k 1 scale).1 (scaleRatio k 1 scale).2 = true ↔ v.Has (k * 10 ^ scale) := by
  rw [holds_iff hv (scaleRatio_pos Nat.one_pos scale), scaleRatio_div, Nat.cast_one, div_one]

theorem has_of_onGrid? (hv : 0 < v.den) {k : Nat} {scale : Int} (h : v.onGrid? scale = some k) :
    v.Has (k * 10 ^ scale) := by
  rw [← holds_grid hv]
  simp only [onGrid?] at h
  split at h
  · split at h <;> (cases h; assumption)
  · cases h
    assumption
  · cases h
    assumption
  · cases h

theorem onGrid?_isSome (hv : 0 < v.den) {scale : Int} (hlow : v.lower + 10 ^ scale ≤ v.middle)
    (hhigh : v.middle < v.upper) : (v.onGrid? scale).isSome = true := by
  have hpow : (0 : ℚ) < 10 ^ scale := zpow_pos (by norm_num) _
  let down := (scaleRatio v.mid v.den (-scale)).1 / (scaleRatio v.mid v.den (-scale)).2
  have hratio := scaleRatio_div v.mid v.den (-scale)
  have hpos : 0 < (scaleRatio v.mid v.den (-scale)).2 := scaleRatio_pos hv (-scale)
  have hden : (0 : ℚ) < (scaleRatio v.mid v.den (-scale)).2 := by exact_mod_cast hpos
  have hmiddle : ((scaleRatio v.mid v.den (-scale)).1 : ℚ) / (scaleRatio v.mid v.den (-scale)).2 *
      10 ^ scale = v.middle := by
    rw [hratio, mul_assoc, ← zpow_add₀ (by norm_num), neg_add_cancel, zpow_zero, mul_one]
    rfl
  have hbelow : (down : ℚ) * 10 ^ scale ≤ v.middle := by
    rw [← hmiddle]
    exact mul_le_mul_of_nonneg_right Nat.cast_div_le hpow.le
  have habove : v.middle < (down + 1) * 10 ^ scale := by
    rw [← hmiddle]
    refine mul_lt_mul_of_pos_right ?_ hpow
    rw [div_lt_iff₀ hden]
    have hlt := Nat.lt_mul_div_succ (scaleRatio v.mid v.den (-scale)).1 hpos
    rw [Nat.mul_comm] at hlt
    exact_mod_cast hlt
  have hinside : v.holds (scaleRatio down 1 scale).1 (scaleRatio down 1 scale).2 = true := by
    rw [holds_grid hv]
    exact .of_between (by linarith) (by linarith)
  simp only [onGrid?]
  split
  · rfl
  · rfl
  · rfl
  · rename_i hno _
    rw [hinside] at hno
    cases hno

/-- The search ends with the first grid that has a decimal in the interval. -/
theorem shortest_eq {leading : Int} {fuel places q : Nat} (hle : places ≤ q)
    (hlt : q < places + fuel) (h : (v.onGrid? (leading - q)).isSome = true) :
    ∃ k scale, v.onGrid? scale = some k ∧ v.shortest leading fuel places = .ofScaled k scale := by
  induction fuel generalizing places with
  | zero => omega
  | succ fuel ih =>
    cases hgrid : v.onGrid? (leading - places) with
    | some k => exact ⟨k, _, hgrid, by simp only [shortest, hgrid]⟩
    | none =>
      have hne : places ≠ q := by
        rintro rfl
        rw [hgrid] at h
        cases h
      have hnext : places + 1 ≤ q := by omega
      obtain ⟨k, scale, hk, heq⟩ := ih hnext (by omega)
      exact ⟨k, scale, hk, by simp only [shortest, hgrid, heq]⟩

end Interval

theorem leadingExponent_le {n d : Nat} (hd : 0 < d) (h : d ≤ n * tenTo 400) :
    (10 : ℚ) ^ leadingExponent n d ≤ n / d := by
  have hpos : 0 < n * tenTo 400 / d := Nat.div_pos h hd
  have hlen := List.length_pos_of_ne_nil (decimalChars_ne_nil (n * tenTo 400 / d))
  have hdigits : 10 ^ ((decimalChars (n * tenTo 400 / d)).length - 1) ≤ n * tenTo 400 / d := by
    by_contra hlt
    rcases Nat.eq_zero_or_pos ((decimalChars (n * tenTo 400 / d)).length - 1) with hzero | hmore
    · rw [hzero] at hlt
      omega
    · have := (Nat.length_toDigits_le_iff (b := 10) (by decide) hmore).2 (Nat.not_le.1 hlt)
      unfold decimalChars at this hlen
      omega
  have hcast : (10 : ℚ) ^ ((decimalChars (n * tenTo 400 / d)).length - 1) ≤ n * 10 ^ 400 / d := by
    calc (10 : ℚ) ^ ((decimalChars (n * tenTo 400 / d)).length - 1)
        ≤ ((n * tenTo 400 / d : Nat) : ℚ) := by exact_mod_cast hdigits
      _ ≤ ((n * tenTo 400 : Nat) : ℚ) / d := Nat.cast_div_le
      _ = n * 10 ^ 400 / d := by push_cast [cast_tenTo]; rfl
  have hexp : leadingExponent n d =
      ((decimalChars (n * tenTo 400 / d)).length - 1 : Nat) - (400 : Nat) := by
    rw [leadingExponent]
    omega
  rw [hexp, zpow_sub₀ (by norm_num), zpow_natCast, zpow_natCast, div_le_iff₀ (by positivity),
    div_mul_eq_mul_div]
  exact hcast

theorem twoTo_le_tenTo {n k : Nat} (h : n ≤ 3 * k) : twoTo n ≤ tenTo k :=
  calc twoTo n ≤ 2 ^ (3 * k) := Nat.pow_le_pow_right (by decide) h
    _ = (2 ^ 3) ^ k := Nat.pow_mul 2 3 k
    _ ≤ tenTo k := Nat.pow_le_pow_left (by decide) k

namespace BinaryFormat

variable {f : BinaryFormat} {a : Nat}

theorem decode_lt (f : BinaryFormat) (a : Nat) : (f.decode a).1 < 2 * twoTo f.fractionBits := by
  have hmod := Nat.mod_lt a (twoTo_pos f.fractionBits)
  simp only [decode]
  split <;> (dsimp only; omega)

section Bounds

variable (hbits : f.fractionBits ≤ 52) (hlowest : -1074 ≤ f.lowest)

include hlowest in
theorem leadingExponent_le_middle (ha : 0 < a) :
    (10 : ℚ) ^ leadingExponent (f.intervalOf a).mid (f.intervalOf a).den ≤
      (f.intervalOf a).middle := by
  have hm := decode_pos (f := f) ha
  have he := f.decode_snd_ge a
  refine leadingExponent_le (f.den_interval_pos _ _) ?_
  simp only [intervalOf, interval]
  calc 4 * twoTo (-(f.decode a).2).toNat
      ≤ 4 * tenTo 400 := Nat.mul_le_mul_left 4 (twoTo_le_tenTo (by omega))
    _ ≤ 4 * (f.decode a).1 * twoTo (f.decode a).2.toNat * tenTo 400 := by
      refine Nat.mul_le_mul_right _ ?_
      rw [Nat.mul_assoc]
      exact Nat.mul_le_mul_left 4 (Nat.mul_pos hm (twoTo_pos _))

include hbits hlowest in
/-- Twenty digits are finer than the places of any pattern. -/
theorem exists_shortest (ha : 0 < a) : ∃ (k : Nat) (scale : Int),
    (f.intervalOf a).Has (k * 10 ^ scale) ∧ f.shortest a = .ofScaled k scale := by
  have hden : 0 < (f.intervalOf a).den := f.den_interval_pos _ _
  have hpow : (0 : ℚ) < 2 ^ (f.decode a).2 := zpow_pos (by norm_num) _
  obtain ⟨hlow, hhigh⟩ := middle_between (f := f) ha
  have hlead := leadingExponent_le_middle hlowest ha
  generalize hL : leadingExponent (f.intervalOf a).mid (f.intervalOf a).den = leading at hlead
  have hm : ((f.decode a).1 : ℚ) ≤ 2 ^ 53 := by
    have hlt := f.decode_lt a
    have htwo : twoTo f.fractionBits ≤ 2 ^ 52 := Nat.pow_le_pow_right (by decide) hbits
    exact_mod_cast (by omega : (f.decode a).1 ≤ 2 ^ 53)
  have hfine : (10 : ℚ) ^ (leading - (19 : Nat)) ≤ 2 ^ (f.decode a).2 / 4 := by
    rw [zpow_sub₀ (by norm_num), zpow_natCast, div_le_iff₀ (by positivity)]
    calc (10 : ℚ) ^ leading ≤ (f.decode a).1 * 2 ^ (f.decode a).2 := by
          rwa [intervalOf, middle_interval] at hlead
      _ ≤ 2 ^ 53 * 2 ^ (f.decode a).2 := mul_le_mul_of_nonneg_right hm hpow.le
      _ ≤ 2 ^ (f.decode a).2 / 4 * 10 ^ 19 := by linarith
  have hgrid := Interval.onGrid?_isSome hden
    ((add_le_add_right hfine _).trans hlow) hhigh
  obtain ⟨k, scale, hk, heq⟩ :=
    Interval.shortest_eq (Nat.zero_le 19) (by decide : 19 < 0 + 20) hgrid
  refine ⟨k, scale, Interval.has_of_onGrid? hden hk, ?_⟩
  rw [shortest, if_neg (Nat.ne_of_gt ha), ← heq, ← hL]
  rfl

theorem pos_of_has (ha : 0 < a) {k : Nat} {scale : Int}
    (h : (f.intervalOf a).Has (k * 10 ^ scale)) : 0 < k := by
  have hpow : (0 : ℚ) < 2 ^ (f.decode a).2 := zpow_pos (by norm_num) _
  have hm : (1 : ℚ) ≤ (f.decode a).1 := by exact_mod_cast decode_pos (f := f) ha
  have hlow : 0 < (f.intervalOf a).lower := by
    rw [intervalOf, lower_interval _ (decode_pos ha)]
    refine mul_pos ?_ hpow
    split <;> linarith
  refine Nat.pos_of_ne_zero fun hzero => ?_
  have hle := h.le.1
  rw [hzero, Nat.cast_zero, zero_mul] at hle
  linarith

include hbits hlowest in
theorem trim_shortest (ha : 0 < a) : (f.shortest a).Trim := by
  obtain ⟨k, scale, hk, heq⟩ := exists_shortest hbits hlowest ha
  rw [heq]
  exact Decimal.trim_ofScaled (pos_of_has ha hk) scale

include hbits hlowest in
theorem has_value_shortest (ha : 0 < a) : (f.intervalOf a).Has (f.shortest a).value := by
  obtain ⟨k, scale, hk, heq⟩ := exists_shortest hbits hlowest ha
  rwa [heq, Decimal.value_ofScaled]

include hbits hlowest in
/-- Each pattern is written with a decimal of its own. -/
theorem shortest_inj (hf : 0 < f.fractionBits) {a b : Nat} (h : f.shortest a = f.shortest b) :
    a = b := by
  have hzero {n : Nat} (hn : f.shortest n = f.shortest 0) : n = 0 := by
    by_contra hpos
    exact (trim_shortest hbits hlowest (Nat.pos_of_ne_zero hpos)).ne_nil (by rw [hn]; rfl)
  rcases Nat.eq_zero_or_pos a with rfl | ha
  · exact (hzero h.symm).symm
  rcases Nat.eq_zero_or_pos b with rfl | hb
  · exact hzero h
  have hvalue := has_value_shortest hbits hlowest ha
  rw [h] at hvalue
  exact intervalOf_disjoint hf hvalue (has_value_shortest hbits hlowest hb)

end Bounds

end BinaryFormat

end CacheAside
