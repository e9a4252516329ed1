import CacheAside.Proofs.Number.Shortest

set_option autoImplicit false

namespace CacheAside

theorem run_append_inj {p : Char → Prop} {xs ys r s : List Char} (hx : ∀ c ∈ xs, p c)
    (hy : ∀ c ∈ ys, p c) (hr : ∀ c, r.head? = some c → ¬ p c) (hs : ∀ c, s.head? = some c → ¬ p c)
    (h : xs ++ r = ys ++ s) : xs = ys ∧ r = s := by
  induction xs generalizing ys with
  | nil =>
    cases ys with
    | nil => exact ⟨rfl, h⟩
    | cons y ys =>
      refine absurd (hy y (.head _)) (hr y ?_)
      rw [List.nil_append] at h
      rw [h]
      rfl
  | cons x xs ih =>
    cases ys with
    | nil =>
      refine absurd (hx x (.head _)) (hs x ?_)
      rw [List.nil_append] at h
      rw [← h]
      rfl
    | cons y ys =>
      obtain ⟨rfl, hrest⟩ := List.cons.inj h
      obtain ⟨rfl, hrs⟩ :=
        ih (fun c hc => hx c (.tail _ hc)) (fun c hc => hy c (.tail _ hc)) hrest
      exact ⟨rfl, hrs⟩

theorem trimmed_append_zeros {ds : List Char} (h : ds.getLast? ≠ some '0') (n : Nat) :
    trimmed (ds ++ List.replicate n '0') = ds := by
  have hzeros : (List.replicate n '0' ++ ds.reverse).dropWhile (· == '0') = ds.reverse := by
    rw [List.dropWhile_append_of_pos (by simp)]
    rw [← List.head?_reverse] at h
    cases hd : ds.reverse with
    | nil => rfl
    | cons c rest =>
      rw [hd] at h
      exact List.dropWhile_cons_of_neg (by simpa using h)
  rw [trimmed, List.reverse_append, List.reverse_replicate, hzeros, List.reverse_reverse]

namespace Decimal

variable {d d' : Decimal}

/-- What decimals that are written look like: zero, or digits in trim. -/
def Canonical (d : Decimal) : Prop :=
  d = ⟨[], 0⟩ ∨ d.Trim

theorem plain_of_nonneg (h : d.Trim) (hl : 0 ≤ d.leading) : ∃ whole frac,
    d.plain = whole ++ '.' :: frac ∧ (∀ c ∈ whole, c.isDigit = true) ∧
      (∀ c ∈ frac, c.isDigit = true) ∧ (whole.length : Int) = d.leading + 1 ∧
      whole.head? ≠ some '0' ∧ trimmed (whole ++ frac) = d.digits := by
  obtain ⟨ds, leading⟩ := d
  obtain ⟨digits, hne, hfirst, hlast⟩ := h
  dsimp only at digits hne hfirst hlast hl ⊢
  let k := leading.toNat + 1
  let whole := ds.take k ++ List.replicate (k - ds.length) '0'
  let frac := if (ds.drop k).isEmpty then ['0'] else ds.drop k
  have hplain : plain ⟨ds, leading⟩ = whole ++ '.' :: frac := by
    cases ds with
    | nil => exact absurd rfl hne
    | cons c rest => simp only [plain, if_pos hl, whole, frac, k]
  have hsum : ∃ n, whole ++ frac = ds ++ List.replicate n '0' := by
    simp only [whole, frac]
    split
    · rename_i hempty
      have hle : ds.length ≤ k := by simpa using hempty
      refine ⟨k - ds.length + 1, ?_⟩
      rw [List.take_of_length_le hle, List.append_assoc, List.replicate_succ']
    · rename_i hmore
      have hlt : k < ds.length := by simpa using hmore
      exact ⟨0, by simp [Nat.sub_eq_zero_of_le hlt.le]⟩
  refine ⟨whole, frac, hplain, fun c hc => ?_, fun c hc => ?_, ?_, ?_, ?_⟩
  · rcases List.mem_append.1 hc with hc | hc
    · exact digits c (List.mem_of_mem_take hc)
    · rw [List.eq_of_mem_replicate hc]
      rfl
  · simp only [frac] at hc
    split at hc
    · rw [List.mem_singleton.1 hc]
      rfl
    · exact digits c (List.mem_of_mem_drop hc)
  · simp only [whole, k, List.length_append, List.length_take, List.length_replicate]
    omega
  · cases ds with
    | nil => exact absurd rfl hne
    | cons c rest => simpa [whole, k] using hfirst
  · obtain ⟨n, hn⟩ := hsum
    rw [hn, trimmed_append_zeros hlast]

theorem plain_of_neg (hl : d.leading < 0) (hne : d.digits ≠ []) : d.plain =
    ['0'] ++ '.' :: (List.replicate ((-d.leading).toNat - 1) '0' ++ d.digits) := by
  obtain ⟨ds, leading⟩ := d
  cases ds with
  | nil => exact absurd rfl hne
  | cons c rest => simp only [plain, if_neg (Int.not_le.2 hl)]; rfl

theorem point_inj {whole whole' frac frac' : List Char} (hw : ∀ c ∈ whole, c.isDigit = true)
    (hw' : ∀ c ∈ whole', c.isDigit = true) (h : whole ++ '.' :: frac = whole' ++ '.' :: frac') :
    whole = whole' ∧ frac = frac' := by
  have hpoint (r : List Char) (c : Char) (hc : ('.' :: r).head? = some c) : ¬ c.isDigit = true := by
    cases hc
    decide
  obtain ⟨rfl, hrest⟩ := run_append_inj hw hw' (hpoint frac) (hpoint frac') h
  exact ⟨rfl, (List.cons.inj hrest).2⟩

theorem digit_zero : ∀ c ∈ ['0'], c.isDigit = true :=
  List.forall_mem_singleton.2 rfl

theorem plain_ne (h : d.Trim) (hl : 0 ≤ d.leading) (frac : List Char) :
    d.plain ≠ ['0'] ++ '.' :: frac := by
  obtain ⟨whole, rest, hplain, hwhole, -, -, hfirst, -⟩ := plain_of_nonneg h hl
  intro heq
  rw [hplain] at heq
  obtain ⟨rfl, -⟩ := point_inj hwhole digit_zero heq
  exact hfirst rfl

theorem plain_inj_of_nonneg (h : d.Trim) (h' : d'.Trim) (hl : 0 ≤ d.leading) (hl' : 0 ≤ d'.leading)
    (heq : d.plain = d'.plain) : d = d' := by
  obtain ⟨whole, frac, hplain, hwhole, -, hlength, -, hdigits⟩ := plain_of_nonneg h hl
  obtain ⟨whole', frac', hplain', hwhole', -, hlength', -, hdigits'⟩ := plain_of_nonneg h' hl'
  rw [hplain, hplain'] at heq
  obtain ⟨rfl, rfl⟩ := point_inj hwhole hwhole' heq
  obtain ⟨ds, leading⟩ := d
  obtain ⟨ds', leading'⟩ := d'
  dsimp only at hlength hlength' hdigits hdigits'
  rw [Decimal.mk.injEq]
  exact ⟨hdigits.symm.trans hdigits', by omega⟩

theorem zeros_inj {ds ds' : List Char} {m n : Nat} (h : ds.head? ≠ some '0')
    (h' : ds'.head? ≠ some '0')
    (heq : List.replicate m '0' ++ ds = List.replicate n '0' ++ ds') : m = n ∧ ds = ds' := by
  have hrun := run_append_inj (p := (· = '0')) (fun c hc => List.eq_of_mem_replicate hc)
    (fun c hc => List.eq_of_mem_replicate hc) (fun c hc hzero => h (hzero ▸ hc))
    (fun c hc hzero => h' (hzero ▸ hc)) heq
  exact ⟨by simpa using congrArg List.length hrun.1, hrun.2⟩

theorem plain_inj_of_neg (h : d.Trim) (h' : d'.Trim) (hl : d.leading < 0) (hl' : d'.leading < 0)
    (heq : d.plain = d'.plain) : d = d' := by
  rw [plain_of_neg hl h.ne_nil, plain_of_neg hl' h'.ne_nil] at heq
  obtain ⟨-, hfrac⟩ := point_inj digit_zero digit_zero heq
  obtain ⟨hzeros, hdigits⟩ := zeros_inj h.first h'.first hfrac
  obtain ⟨ds, leading⟩ := d
  obtain ⟨ds', leading'⟩ := d'
  rw [Decimal.mk.injEq]
  dsimp only at hl hl' hzeros
  exact ⟨hdigits, by omega⟩

theorem plain_ne_zero (h : d.Trim) : d.plain ≠ ['0', '.', '0'] := by
  rcases Int.lt_or_le d.leading 0 with hl | hl
  · rw [plain_of_neg hl h.ne_nil]
    intro heq
    obtain ⟨-, hfrac⟩ := point_inj digit_zero digit_zero heq
    have hlast := congrArg List.getLast? hfrac
    rw [List.getLast?_append_of_ne_nil _ h.ne_nil] at hlast
    exact h.last hlast
  · exact plain_ne h hl ['0']

theorem plain_inj (h : d.Canonical) (h' : d'.Canonical) (heq : d.plain = d'.plain) : d = d' := by
  rcases h with rfl | h <;> rcases h' with rfl | h'
  · rfl
  · exact absurd heq.symm (plain_ne_zero h')
  · exact absurd heq (plain_ne_zero h)
  · rcases Int.lt_or_le d.leading 0 with hl | hl <;> rcases Int.lt_or_le d'.leading 0 with hl' | hl'
    · exact plain_inj_of_neg h h' hl hl' heq
    · rw [plain_of_neg hl h.ne_nil] at heq
      exact absurd heq.symm (plain_ne h' hl' _)
    · rw [plain_of_neg hl' h'.ne_nil] at heq
      exact absurd heq (plain_ne h hl _)
    · exact plain_inj_of_nonneg h h' hl hl' heq

def mantissa : List Char → List Char
  | [] => ['0']
  | [c] => [c]
  | c :: rest => c :: '.' :: rest

theorem scientific_eq (d : Decimal) : d.scientific =
    mantissa d.digits ++ 'e' :: (if d.leading < 0 then '-' else '+') ::
      decimalChars d.leading.natAbs := by
  obtain ⟨_ | ⟨c, _ | ⟨c', rest⟩⟩, leading⟩ := d <;> rfl

theorem ne_e_of_mem_mantissa {ds : List Char} (h : ∀ c ∈ ds, c.isDigit = true) :
    ∀ c ∈ mantissa ds, c ≠ 'e' := by
  have hdigit : ∀ c ∈ ds, c ≠ 'e' := by
    rintro c hc rfl
    exact absurd (h 'e' hc) (by decide)
  cases ds with
  | nil => exact List.forall_mem_singleton.2 (by decide)
  | cons c rest =>
    cases rest with
    | nil => exact hdigit
    | cons c' rest =>
      rintro x (_ | ⟨_, _ | ⟨_, hx⟩⟩)
      · exact hdigit c (.head _)
      · decide
      · exact hdigit x (.tail _ hx)

theorem mantissa_inj {ds ds' : List Char} (hne : ds ≠ []) (hne' : ds' ≠ [])
    (h : mantissa ds = mantissa ds') : ds = ds' := by
  match ds, ds', hne, hne' with
  | [c], [c'], _, _ => exact h
  | [c], c' :: d' :: rest', _, _ => cases h
  | c :: d :: rest, [c'], _, _ => cases h
  | c :: d :: rest, c' :: d' :: rest', _, _ =>
    obtain ⟨rfl, hrest⟩ := List.cons.inj h
    rw [(List.cons.inj hrest).2]

theorem scientific_inj (h : d.Trim) (h' : d'.Trim) (heq : d.scientific = d'.scientific) :
    d = d' := by
  have hmark (r : List Char) (c : Char) (hc : ('e' :: r).head? = some c) : ¬ c ≠ 'e' := by
    cases hc
    simp
  rw [scientific_eq, scientific_eq] at heq
  obtain ⟨hmantissa, hexp⟩ := run_append_inj (ne_e_of_mem_mantissa h.digits)
    (ne_e_of_mem_mantissa h'.digits) (hmark _) (hmark _) heq
  have hdigits := mantissa_inj h.ne_nil h'.ne_nil hmantissa
  obtain ⟨hsign, habs⟩ := List.cons.inj (List.cons.inj hexp).2
  have habs := decimalChars_inj habs
  have hneg : d.leading < 0 ↔ d'.leading < 0 := by
    by_cases hl : d.leading < 0 <;> by_cases hl' : d'.leading < 0 <;>
      simp [hl, hl'] at hsign ⊢
  obtain ⟨ds, leading⟩ := d
  obtain ⟨ds', leading'⟩ := d'
  rw [Decimal.mk.injEq]
  dsimp only at habs hneg
  exact ⟨hdigits, by omega⟩

def isNumeral (c : Char) : Bool :=
  c.isDigit || c == '.' || c == 'e' || c == '+' || c == '-'

theorem isNumeral_of_isDigit {c : Char} (h : c.isDigit = true) : isNumeral c = true := by
  simp [isNumeral, h]

/-- What the text of a decimal looks like: a digit first, and a point or an exponent later. -/
structure Numeral (cs : List Char) : Prop where
  first : ∃ c rest, cs = c :: rest ∧ c.isDigit = true
  each : ∀ c ∈ cs, isNumeral c = true
  mark : '.' ∈ cs ∨ 'e' ∈ cs

theorem Canonical.digits (h : d.Canonical) : ∀ c ∈ d.digits, c.isDigit = true := by
  rcases h with rfl | h
  · exact fun c hc => (nomatch hc)
  · exact h.digits

theorem Canonical.plain_eq (h : d.Canonical) : ∃ whole frac, d.plain = whole ++ '.' :: frac ∧
    whole ≠ [] ∧ (∀ c ∈ whole, c.isDigit = true) ∧ ∀ c ∈ frac, c.isDigit = true := by
  rcases h with rfl | h
  · exact ⟨['0'], ['0'], rfl, List.cons_ne_nil _ _, digit_zero, digit_zero⟩
  · rcases Int.lt_or_le d.leading 0 with hl | hl
    · refine ⟨['0'], _, plain_of_neg hl h.ne_nil, List.cons_ne_nil _ _, digit_zero, fun c hc => ?_⟩
      rcases List.mem_append.1 hc with hc | hc
      · rw [List.eq_of_mem_replicate hc]
        rfl
      · exact h.digits c hc
    · obtain ⟨whole, frac, hplain, hwhole, hfrac, hlength, -, -⟩ := plain_of_nonneg h hl
      refine ⟨whole, frac, hplain, ?_, hwhole, hfrac⟩
      rintro rfl
      simp only [List.length_nil] at hlength
      omega

theorem not_mem_plain (h : d.Canonical) : 'e' ∉ d.plain := by
  obtain ⟨whole, frac, hplain, -, hwhole, hfrac⟩ := h.plain_eq
  intro he
  rw [hplain] at he
  rcases List.mem_append.1 he with he | he
  · exact absurd (hwhole _ he) (by decide)
  · rcases List.mem_cons.1 he with he | he
    · exact absurd he (by decide)
    · exact absurd (hfrac _ he) (by decide)

theorem numeral_plain (h : d.Canonical) : Numeral d.plain := by
  obtain ⟨whole, frac, hplain, hne, hwhole, hfrac⟩ := h.plain_eq
  obtain ⟨c, rest, rfl⟩ := List.exists_cons_of_ne_nil hne
  rw [hplain]
  refine ⟨⟨c, _, rfl, hwhole c (.head _)⟩, fun x hx => ?_, .inl (by simp)⟩
  rcases List.mem_append.1 hx with hx | hx
  · exact isNumeral_of_isDigit (hwhole x hx)
  · rcases List.mem_cons.1 hx with rfl | hx
    · rfl
    · exact isNumeral_of_isDigit (hfrac x hx)

theorem mantissa_eq (h : ∀ c ∈ d.digits, c.isDigit = true) : ∃ c rest,
    mantissa d.digits = c :: rest ∧ c.isDigit = true ∧ ∀ x ∈ rest, isNumeral x = true := by
  obtain ⟨_ | ⟨c, _ | ⟨c', rest⟩⟩, leading⟩ := d
  · exact ⟨'0', [], rfl, rfl, fun x hx => (nomatch hx)⟩
  · exact ⟨c, [], rfl, h c (.head _), fun x hx => (nomatch hx)⟩
  · refine ⟨c, '.' :: c' :: rest, rfl, h c (.head _), fun x hx => ?_⟩
    rcases List.mem_cons.1 hx with rfl | hx
    · rfl
    · exact isNumeral_of_isDigit (h x (.tail _ hx))

theorem mem_scientific (d : Decimal) : 'e' ∈ d.scientific := by
  rw [scientific_eq]
  exact List.mem_append_right _ (.head _)

theorem numeral_scientific (h : ∀ c ∈ d.digits, c.isDigit = true) : Numeral d.scientific := by
  obtain ⟨c, rest, hmantissa, hfirst, hrest⟩ := mantissa_eq h
  refine ⟨?_, ?_, .inr (mem_scientific d)⟩
  · rw [scientific_eq, hmantissa]
    exact ⟨c, _, rfl, hfirst⟩
  · rw [scientific_eq, hmantissa]
    intro x hx
    rcases List.mem_append.1 hx with hx | hx
    · rcases List.mem_cons.1 hx with rfl | hx
      · exact isNumeral_of_isDigit hfirst
      · exact hrest x hx
    · rcases List.mem_cons.1 hx with rfl | hx
      · rfl
      · rcases List.mem_cons.1 hx with rfl | hx
        · split <;> rfl
        · exact isNumeral_of_isDigit (isDigit_of_mem_decimalChars hx)

theorem numeral_write (l : NumberLayout) (h : d.Canonical) : Numeral (l.write d) := by
  unfold NumberLayout.write
  split
  · exact numeral_plain h
  · exact numeral_scientific h.digits

/-- Decimals have texts of their own in any layout: only the texts with an exponent have an `e`. -/
theorem write_inj (l : NumberLayout) (h : d.Canonical) (h' : d'.Canonical)
    (heq : l.write d = l.write d') : d = d' := by
  unfold NumberLayout.write at heq
  split at heq <;> split at heq
  · exact plain_inj h h' heq
  · exact absurd (heq ▸ mem_scientific d') (not_mem_plain h)
  · exact absurd (heq ▸ mem_scientific d) (not_mem_plain h')
  · rename_i hd hd'
    rcases h with rfl | h
    · exact absurd rfl hd
    · rcases h' with rfl | h'
      · exact absurd rfl hd'
      · exact scientific_inj h h' heq

end Decimal

theorem signed_inj {a b : Bool} {cs ds : List Char}
    (hc : ∃ c rest, cs = c :: rest ∧ c.isDigit = true)
    (hd : ∃ d rest, ds = d :: rest ∧ d.isDigit = true) (h : signed a cs = signed b ds) :
    a = b ∧ cs = ds := by
  obtain ⟨c, cs, rfl, hc⟩ := hc
  obtain ⟨d, ds, rfl, hd⟩ := hd
  cases a <;> cases b
  · exact ⟨rfl, h⟩
  · obtain ⟨rfl, -⟩ := List.cons.inj h
    exact absurd hc (by decide)
  · obtain ⟨rfl, -⟩ := List.cons.inj h
    exact absurd hd (by decide)
  · exact ⟨rfl, (List.cons.inj h).2⟩

theorem BinaryFormat.canonical_shortest {f : BinaryFormat} (hbits : f.fractionBits ≤ 52)
    (hlowest : -1074 ≤ f.lowest) (a : Nat) : (f.shortest a).Canonical := by
  rcases Nat.eq_zero_or_pos a with rfl | ha
  · exact .inl rfl
  · exact .inr (f.trim_shortest hbits hlowest ha)

namespace Binary64

variable {x y : Binary64}

theorem canonical_shortest (a : Nat) : (binary64.shortest a).Canonical :=
  BinaryFormat.canonical_shortest (by decide) (by decide) a

theorem numeral_write (x : Binary64) :
    Decimal.Numeral (doubleLayout.write (binary64.shortest x.magnitude)) :=
  Decimal.numeral_write doubleLayout (canonical_shortest x.magnitude)

theorem eq_of_parts (hsign : x.isNegative = y.isNegative) (h : x.magnitude = y.magnitude) :
    x = y := by
  obtain ⟨x⟩ := x
  obtain ⟨y⟩ := y
  have hx := x.toNat_lt
  have hy := y.toNat_lt
  simp only [isNegative, decide_eq_decide, UInt64.le_iff_toNat_le] at hsign
  simp only [magnitude] at h
  rw [Binary64.mk.injEq, ← UInt64.toNat_inj]
  have hbit : binary64.signBit = 0x8000000000000000 := by decide
  rw [hbit] at h
  have hliteral : (0x8000000000000000 : UInt64).toNat = 0x8000000000000000 := rfl
  rw [hliteral] at hsign
  omega

/-- Doubles of different bits have different texts. -/
theorem chars_inj (h : x.chars = y.chars) : x = y := by
  obtain ⟨hsign, hwrite⟩ := signed_inj (numeral_write x).first (numeral_write y).first h
  have hdecimal :=
    Decimal.write_inj doubleLayout (canonical_shortest _) (canonical_shortest _) hwrite
  exact eq_of_parts hsign
    (binary64.shortest_inj (by decide) (by decide) (by decide) hdecimal)

theorem isNumeral_of_mem_chars {c : Char} (h : c ∈ x.chars) : Decimal.isNumeral c = true := by
  unfold chars signed at h
  split at h
  · rcases List.mem_cons.1 h with rfl | h
    · rfl
    · exact (numeral_write x).each c h
  · exact (numeral_write x).each c h

/-- No text of a double is that of an integer. -/
theorem mark_mem_chars (x : Binary64) : '.' ∈ x.chars ∨ 'e' ∈ x.chars := by
  unfold chars signed
  split
  · exact (numeral_write x).mark.imp (.tail _) (.tail _)
  · exact (numeral_write x).mark

end Binary64

end CacheAside
