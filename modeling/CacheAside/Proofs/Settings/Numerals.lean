import CacheAside.Number.Unsigned
import CacheAside.Text.Whitespace
import Mathlib.Data.Nat.Digits.Defs

set_option autoImplicit false

namespace CacheAside

namespace Text

structure Trimmed (raw kept : List Char) : Prop where
  whole : ∃ before after, raw = before ++ kept ++ after ∧
    (∀ c ∈ before, isWhitespace c = true) ∧ ∀ c ∈ after, isWhitespace c = true
  first : ∀ c, kept.head? = some c → isWhitespace c = false
  last : ∀ c, kept.getLast? = some c → isWhitespace c = false

theorem dropWhile_append_eq {p : Char → Bool} {before rest : List Char}
    (hb : ∀ c ∈ before, p c = true) (hr : ∀ c, rest.head? = some c → p c = false) :
    (before ++ rest).dropWhile p = rest := by
  rw [List.dropWhile_append_of_pos hb]
  cases rest with
  | nil => rfl
  | cons c cs => exact List.dropWhile_cons_of_neg (by simp [hr c rfl])

theorem head?_dropWhile {p : Char → Bool} {cs : List Char} {c : Char}
    (h : (cs.dropWhile p).head? = some c) : p c = false := by
  have := List.head?_dropWhile_not p cs
  rwa [h] at this

theorem trim_eq_of_trimmed {raw kept : List Char} (h : Trimmed raw kept) : trim raw = kept := by
  obtain ⟨⟨before, after, rfl, hbefore, hafter⟩, hfirst, hlast⟩ := h
  cases kept with
  | nil =>
    have hall : ∀ c ∈ before ++ after, isWhitespace c = true := fun c hc =>
      (List.mem_append.1 hc).elim (hbefore c) (hafter c)
    have hnone : (before ++ after ++ []).dropWhile isWhitespace = [] :=
      dropWhile_append_eq hall fun _ h => nomatch h
    rw [List.append_nil] at hnone
    simp [trim, hnone]
  | cons first rest =>
    have hfront : (before ++ (first :: rest ++ after)).dropWhile isWhitespace =
        first :: rest ++ after :=
      dropWhile_append_eq hbefore fun c hc => hfirst c (by simpa using hc)
    have hback : (after.reverse ++ (first :: rest).reverse).dropWhile isWhitespace =
        (first :: rest).reverse :=
      dropWhile_append_eq (by simpa using hafter) fun c hc => hlast c (by
        rwa [List.head?_reverse] at hc)
    rw [trim, List.append_assoc, hfront, List.reverse_append, hback, List.reverse_reverse]

theorem trimmed_trim (raw : List Char) : Trimmed raw (trim raw) := by
  have hraw := List.takeWhile_append_dropWhile (p := isWhitespace) (l := raw)
  have hkept := List.takeWhile_append_dropWhile (p := isWhitespace)
    (l := (raw.dropWhile isWhitespace).reverse)
  have hsplit : trim raw ++ ((raw.dropWhile isWhitespace).reverse.takeWhile isWhitespace).reverse =
      raw.dropWhile isWhitespace := by
    rw [trim, ← List.reverse_append, hkept, List.reverse_reverse]
  refine ⟨⟨_, _, (by rw [List.append_assoc, hsplit, hraw]), fun c hc => ?_, fun c hc => ?_⟩,
    fun c hc => ?_, fun c hc => ?_⟩
  · exact List.all_eq_true.1 List.all_takeWhile c hc
  · exact List.all_eq_true.1 List.all_takeWhile c (List.mem_reverse.1 hc)
  · have hhead : (raw.dropWhile isWhitespace).head? = some c := by
      rw [← hsplit, List.head?_append, hc]
      rfl
    exact head?_dropWhile hhead
  · rw [trim, List.getLast?_reverse] at hc
    exact head?_dropWhile hc

theorem trimmed_iff {raw kept : List Char} : Trimmed raw kept ↔ trim raw = kept :=
  ⟨trim_eq_of_trimmed, fun h => h ▸ trimmed_trim raw⟩

end Text

namespace Unsigned

def digitValue (c : Char) : Nat :=
  c.toNat - 0x30

def decimalValue (digits : List Char) : Nat :=
  Nat.ofDigits 10 (digits.map digitValue).reverse

/-- Decimal digits, perhaps behind a plus sign. -/
def Spells (cs : List Char) (n : Nat) : Prop :=
  ∃ sign digits, cs = sign ++ digits ∧ (sign = [] ∨ sign = ['+']) ∧ digits ≠ [] ∧
    (∀ c ∈ digits, c.isDigit = true) ∧ n = decimalValue digits

def appended (n : Nat) (digits : List Char) : Nat :=
  digits.foldl (fun m c => 10 * m + digitValue c) n

theorem appended_zero (digits : List Char) : appended 0 digits = decimalValue digits := by
  rw [decimalValue, Nat.ofDigits_eq_foldr, List.foldr_reverse, List.foldl_map, appended]
  congr 1
  funext m c
  simp [Nat.add_comm]

theorem le_appended (n : Nat) (digits : List Char) : n ≤ appended n digits := by
  induction digits generalizing n with
  | nil => exact Nat.le_refl n
  | cons c rest ih => exact Nat.le_trans (by omega) (ih (10 * n + digitValue c))

theorem readDigits_eq_ok_iff {bound n m : Nat} (hn : n < bound) (cs : List Char) :
    readDigits bound n cs = .ok m ↔
      (∀ c ∈ cs, c.isDigit = true) ∧ m = appended n cs ∧ m < bound := by
  induction cs generalizing n with
  | nil =>
    simp only [readDigits, Except.ok.injEq, appended, List.foldl_nil]
    constructor
    · rintro rfl
      exact ⟨List.forall_mem_nil _, rfl, hn⟩
    · exact fun h => h.2.1.symm
  | cons c rest ih =>
    have hle := le_appended (10 * n + digitValue c) rest
    have hstep : appended n (c :: rest) = appended (10 * n + digitValue c) rest := rfl
    have hread : readDigits bound n (c :: rest) =
        if c.isDigit then
          if 10 * n + digitValue c < bound then readDigits bound (10 * n + digitValue c) rest
          else .error .tooLarge
        else .error .invalidDigit := rfl
    rw [hread, hstep]
    by_cases hc : c.isDigit
    · by_cases hlt : 10 * n + digitValue c < bound
      · simp [hc, hlt, ih hlt]
      · have hnot : ¬ (m = appended (10 * n + digitValue c) rest ∧ m < bound) := by omega
        simp [hc, hlt, hnot]
    · simp [hc]

theorem spells_plus_iff {rest : List Char} {n : Nat} :
    Spells ('+' :: rest) n ↔
      rest ≠ [] ∧ (∀ c ∈ rest, c.isDigit = true) ∧ n = decimalValue rest := by
  constructor
  · rintro ⟨sign, digits, hcs, rfl | rfl, hne, hdigits, hn⟩
    · obtain rfl : '+' :: rest = digits := hcs
      exact nomatch hdigits '+' List.mem_cons_self
    · obtain rfl : rest = digits := List.tail_eq_of_cons_eq hcs
      exact ⟨hne, hdigits, hn⟩
  · rintro ⟨hne, hdigits, hn⟩
    exact ⟨['+'], rest, rfl, .inr rfl, hne, hdigits, hn⟩

theorem spells_iff_of_ne_plus {c : Char} (hc : c ≠ '+') {rest : List Char} {n : Nat} :
    Spells (c :: rest) n ↔
      (∀ x ∈ c :: rest, x.isDigit = true) ∧ n = decimalValue (c :: rest) := by
  constructor
  · rintro ⟨sign, digits, hcs, rfl | rfl, -, hdigits, hn⟩
    · obtain rfl : c :: rest = digits := hcs
      exact ⟨hdigits, hn⟩
    · exact absurd (List.head_eq_of_cons_eq hcs) hc
  · rintro ⟨hdigits, hn⟩
    exact ⟨[], c :: rest, rfl, .inl rfl, List.cons_ne_nil c rest, hdigits, hn⟩

/-- A text is read just when it spells a number below the bound. -/
theorem read_eq_ok_iff {bound n : Nat} (hb : 0 < bound) (cs : List Char) :
    read bound cs = .ok n ↔ Spells cs n ∧ n < bound := by
  have hdigits := readDigits_eq_ok_iff (m := n) hb
  simp only [appended_zero] at hdigits
  cases cs with
  | nil => simp [read, Spells]
  | cons c rest =>
    by_cases hc : c = '+'
    · subst hc
      rw [spells_plus_iff]
      cases rest with
      | nil => simp [read]
      | cons d rest => simp [read, hdigits, and_assoc]
    · have hread : read bound (c :: rest) = readDigits bound 0 (c :: rest) := by
        rw [read] <;> simp [hc]
      rw [spells_iff_of_ne_plus hc, and_assoc, ← hdigits, hread]

end Unsigned

end CacheAside
