import CacheAside.Bytes
import CacheAside.Json.Reader
import CacheAside.Proofs.Json.Canonical
import CacheAside.Proofs.Json.Distinct
import CacheAside.Proofs.Number.Written
/-!
Canonical texts are read in one way. The first character tells what kind of value it is, a text
ends at the first quote that is not escaped, and a number goes on as far as characters of numbers
do; what is behind a value is a comma or a closing bracket, or nothing. So two values have one text
just when they are equal up to the order of the fields.
-/

set_option autoImplicit false

namespace CacheAside.Json

/-! ### Quoted texts -/

theorem readUnit_control {n : Nat} (h : n < 0x20) (r : List Char) :
    readUnit ('0' :: '0' :: Text.hexDigit (n / 16) :: Text.hexDigit (n % 16) :: r) =
      some (n, r) := by
  have hvalue : ∀ n < 0x20,
      Text.hexValue? ['0', '0', Text.hexDigit (n / 16), Text.hexDigit (n % 16)] = some n := by
    decide
  rw [readUnit, hvalue n h]
  rfl

theorem readEscapedUnit_control {c : Char} (h : c.toNat < 0x20) (r : List Char) :
    readEscapedUnit
      ('0' :: '0' :: Text.hexDigit (c.toNat / 16) :: Text.hexDigit (c.toNat % 16) :: r) =
        some (c, r) := by
  have hlow : ¬ (0xdc00 ≤ c.toNat ∧ c.toNat ≤ 0xdfff) := by omega
  have hhigh : ¬ (0xd800 ≤ c.toNat ∧ c.toNat ≤ 0xdbff) := by omega
  simp [readEscapedUnit, readUnit_control h, hlow, hhigh, Char.ofNat_toNat]

section Escapes

variable {c : Char} {r : List Char} (fuel : Nat)

theorem readTextFrom_escaped {code : List Char} (h : readEscape code = some (c, r)) :
    readTextFrom (fuel + 1) ('\\' :: code) =
      (readTextFrom fuel r).map fun p => (c :: p.1, p.2) := by
  rw [readTextFrom, h]
  cases hread : readTextFrom fuel r <;> simp [hread]

theorem readTextFrom_plain (hquote : c ≠ '"') (hslash : c ≠ '\\') (hcontrol : ¬ c.toNat < 0x20) :
    readTextFrom (fuel + 1) (c :: r) = (readTextFrom fuel r).map fun p => (c :: p.1, p.2) := by
  rw [readTextFrom, if_neg hcontrol]
  · cases hread : readTextFrom fuel r <;> simp
  · exact hquote
  · exact hslash

theorem readTextFrom_escapeChar (c : Char) (r : List Char) :
    readTextFrom (fuel + 1) (escapeChar c ++ r) =
      (readTextFrom fuel r).map fun p => (c :: p.1, p.2) := by
  have hcode {n : Nat} (h : c.toNat = n) : Char.ofNat n = c := by rw [← h, Char.ofNat_toNat]
  unfold escapeChar
  split_ifs with hquote hslash hnewline hreturn htab hback hfeed hcontrol
  · subst hquote
    exact readTextFrom_escaped fuel rfl
  · subst hslash
    exact readTextFrom_escaped fuel rfl
  · subst hnewline
    exact readTextFrom_escaped fuel rfl
  · subst hreturn
    exact readTextFrom_escaped fuel rfl
  · subst htab
    exact readTextFrom_escaped fuel rfl
  · rw [← hcode hback]
    exact readTextFrom_escaped fuel rfl
  · rw [← hcode hfeed]
    exact readTextFrom_escaped fuel rfl
  · exact readTextFrom_escaped fuel (readEscapedUnit_control hcontrol r)
  · exact readTextFrom_plain fuel hquote hslash hcontrol

end Escapes

theorem readTextFrom_flatMap (cs r : List Char) {fuel : Nat} (h : cs.length < fuel) :
    readTextFrom fuel (cs.flatMap escapeChar ++ '"' :: r) = some (cs, r) := by
  induction cs generalizing fuel with
  | nil =>
    obtain ⟨fuel, rfl⟩ := Nat.exists_eq_add_of_lt h
    rfl
  | cons c cs ih =>
    obtain ⟨fuel, rfl⟩ : ∃ k, fuel = k + 1 := ⟨fuel - 1, by omega⟩
    rw [List.flatMap_cons, List.append_assoc, readTextFrom_escapeChar,
      ih (by simpa using h)]
    rfl

theorem length_escapeChar_pos (c : Char) : 0 < (escapeChar c).length := by
  unfold escapeChar
  split_ifs <;> exact Nat.succ_pos _

/-- A text is read back from behind its opening quote, with what is behind its closing one. -/
theorem readText_escaped (s : String) (r : List Char) :
    readText (s.toList.flatMap escapeChar ++ '"' :: r) = some (s, r) := by
  have hlength : s.toList.length ≤ (s.toList.flatMap escapeChar).length := by
    rw [List.length_flatMap, ← List.length_map fun c => (escapeChar c).length]
    refine List.length_le_sum_of_one_le _ fun n hn => ?_
    obtain ⟨c, -, rfl⟩ := List.mem_map.1 hn
    exact length_escapeChar_pos c
  rw [readText, readTextFrom_flatMap]
  · simp
  · rw [List.length_append, List.length_cons]
    omega

theorem textChars_append_iff (s t : String) (r u : List Char) :
    textChars s ++ r = textChars t ++ u ↔ s = t ∧ r = u := by
  constructor
  · intro h
    simp only [textChars, List.cons_append, List.append_assoc, List.nil_append, List.cons.injEq,
      true_and] at h
    have hread := congrArg readText h
    rw [readText_escaped, readText_escaped, Option.some.injEq, Prod.mk.injEq] at hread
    exact hread
  · rintro ⟨rfl, rfl⟩
    rfl

/-! ### Numbers -/

theorem first_decimalChars (n : Nat) :
    ∃ c rest, decimalChars n = c :: rest ∧ c.isDigit = true := by
  obtain ⟨c, rest, h⟩ := List.exists_cons_of_ne_nil (decimalChars_ne_nil n)
  have hc : c ∈ decimalChars n := by
    rw [h]
    exact .head _
  exact ⟨c, rest, h, isDigit_of_mem_decimalChars hc⟩

theorem intChars_eq (n : Int) : intChars n = signed (n < 0) (decimalChars n.natAbs) := by
  cases n with
  | ofNat n => simp [intChars, signed]
  | negSucc n => simp [intChars, signed, Int.negSucc_lt_zero]

theorem intChars_inj {m n : Int} (h : intChars m = intChars n) : m = n := by
  rw [intChars_eq, intChars_eq] at h
  obtain ⟨hsign, hdigits⟩ := signed_inj (first_decimalChars _) (first_decimalChars _) h
  have habs := decimalChars_inj hdigits
  rw [decide_eq_decide] at hsign
  omega

theorem isDigit_or_of_mem_intChars {n : Int} {c : Char} (h : c ∈ intChars n) :
    c.isDigit = true ∨ c = '-' := by
  rw [intChars_eq, signed] at h
  split at h
  · rcases List.mem_cons.1 h with rfl | h
    · exact .inr rfl
    · exact .inl (isDigit_of_mem_decimalChars h)
  · exact .inl (isDigit_of_mem_decimalChars h)

theorem isNumeral_of_mem_intChars {n : Int} {c : Char} (h : c ∈ intChars n) :
    Decimal.isNumeral c = true := by
  rcases isDigit_or_of_mem_intChars h with h | rfl
  · exact Decimal.isNumeral_of_isDigit h
  · rfl

theorem intChars_ne_chars (n : Int) (x : Binary64) : intChars n ≠ x.chars := by
  intro h
  rcases x.mark_mem_chars with hmark | hmark
  all_goals
    rw [← h] at hmark
    exact absurd (isDigit_or_of_mem_intChars hmark) (by decide)

/-! ### What is behind a value -/

def Closing (r : List Char) : Prop :=
  ∀ c, r.head? = some c → c = ',' ∨ c = ']' ∨ c = '}'

theorem closing_nil : Closing [] :=
  fun _ h => (nomatch h)

theorem closing_cons {c : Char} (h : c = ',' ∨ c = ']' ∨ c = '}') (r : List Char) :
    Closing (c :: r) := by
  intro d hd
  cases hd
  exact h

theorem Closing.not_isNumeral {r : List Char} (h : Closing r) (c : Char) (hc : r.head? = some c) :
    ¬ Decimal.isNumeral c = true := by
  rcases h c hc with rfl | rfl | rfl <;> decide

/-- Two texts are the same text, whatever is behind each of them, just when `A` holds. -/
def SameTextIff (xs ys : List Char) (A : Prop) : Prop :=
  ∀ r s, Closing r → Closing s → (xs ++ r = ys ++ s ↔ A ∧ r = s)

section Items

variable {α : Type} {text : α → List Char} {A : α → α → Prop} {as bs : List α} {close : Char}

theorem commaSeparated_cons (x : List Char) (xs : List (List Char)) :
    commaSeparated (x :: xs) = x ++ xs.flatMap (',' :: ·) := by
  induction xs generalizing x with
  | nil => simp [commaSeparated]
  | cons y ys ih => rw [commaSeparated, ih, List.flatMap_cons, List.cons_append]

def behind (text : α → List Char) (close : Char) (as : List α) (r : List Char) : List Char :=
  as.flatMap (fun a => ',' :: text a) ++ close :: r

theorem behind_cons (a : α) (as : List α) (r : List Char) :
    behind text close (a :: as) r = ',' :: (text a ++ behind text close as r) := by
  simp [behind]

theorem closing_behind (hclose : close = ']' ∨ close = '}') (as : List α) (r : List Char) :
    Closing (behind text close as r) := by
  cases as with
  | nil => exact closing_cons (.inr hclose) r
  | cons a as => exact closing_cons (.inl rfl) _

theorem behind_eq_iff (hclose : close = ']' ∨ close = '}')
    (h : ∀ a ∈ as, ∀ b ∈ bs, SameTextIff (text a) (text b) (A a b)) (r s : List Char) :
    behind text close as r = behind text close bs s ↔ List.Forall₂ A as bs ∧ r = s := by
  have hcomma : close ≠ ',' := by rcases hclose with rfl | rfl <;> decide
  induction as generalizing bs with
  | nil =>
    cases bs with
    | nil => simp [behind]
    | cons b bs => simp [behind, hcomma]
  | cons a as ih =>
    cases bs with
    | nil => simp [behind, hcomma.symm]
    | cons b bs =>
      have hrest : behind text close as r = behind text close bs s ↔ List.Forall₂ A as bs ∧ r = s :=
        ih fun a' ha b' hb => h a' (.tail _ ha) b' (.tail _ hb)
      rw [behind_cons, behind_cons, List.cons.injEq, eq_self, true_and,
        h a (.head _) b (.head _) _ _ (closing_behind hclose as r) (closing_behind hclose bs s),
        hrest, List.forall₂_cons, and_assoc]

theorem commaSeparated_append (a : α) (as : List α) (r : List Char) :
    commaSeparated ((a :: as).map text) ++ close :: r = text a ++ behind text close as r := by
  rw [List.map_cons, commaSeparated_cons, List.flatMap_map, List.append_assoc]
  rfl

/-- Items are told from each other, and from the bracket behind the last of them. -/
theorem commaSeparated_close_iff (hclose : close = ']' ∨ close = '}')
    (hopen : ∀ a, ∃ c rest, text a = c :: rest ∧ c ≠ close)
    (h : ∀ a ∈ as, ∀ b ∈ bs, SameTextIff (text a) (text b) (A a b)) (r s : List Char) :
    commaSeparated (as.map text) ++ close :: r = commaSeparated (bs.map text) ++ close :: s ↔
      List.Forall₂ A as bs ∧ r = s := by
  cases as with
  | nil =>
    cases bs with
    | nil => simp
    | cons b bs =>
      obtain ⟨c, rest, hb, hc⟩ := hopen b
      rw [commaSeparated_append, hb]
      simp [commaSeparated, hc.symm]
  | cons a as =>
    cases bs with
    | nil =>
      obtain ⟨c, rest, ha, hc⟩ := hopen a
      rw [commaSeparated_append, ha]
      simp [commaSeparated, hc]
    | cons b bs =>
      have hrest : ∀ a ∈ as, ∀ b ∈ bs, SameTextIff (text a) (text b) (A a b) :=
        fun a ha b hb => h a (.tail _ ha) b (.tail _ hb)
      rw [commaSeparated_append, commaSeparated_append,
        h a (.head _) b (.head _) _ _ (closing_behind hclose as r) (closing_behind hclose bs s),
        behind_eq_iff hclose hrest, List.forall₂_cons, and_assoc]

end Items

/-! ### Kinds of values -/

inductive Kind where
  | null
  | bool
  | number
  | text
  | list
  | object
  deriving DecidableEq, Repr

def kind : Json → Kind
  | .null => .null
  | .bool _ => .bool
  | .int _ | .float _ => .number
  | .text _ => .text
  | .list _ => .list
  | .object _ => .object

def kindOf? (c : Char) : Option Kind :=
  if c.isDigit || c = '-' then some .number
  else if c = 'n' then some .null
  else if c = 't' || c = 'f' then some .bool
  else if c = '"' then some .text
  else if c = '[' then some .list
  else if c = '{' then some .object
  else none

theorem first_signed {b : Bool} {cs : List Char}
    (h : ∃ c rest, cs = c :: rest ∧ c.isDigit = true) :
    ∃ c rest, signed b cs = c :: rest ∧ kindOf? c = some .number := by
  obtain ⟨c, rest, rfl, hc⟩ := h
  cases b
  · exact ⟨c, rest, rfl, by simp [kindOf?, hc]⟩
  · exact ⟨'-', c :: rest, rfl, rfl⟩

theorem first_canonicalChars (v : Json) :
    ∃ c rest, v.canonicalChars = c :: rest ∧ kindOf? c = some v.kind := by
  cases v with
  | null => exact ⟨'n', _, rfl, rfl⟩
  | bool b => cases b <;> exact ⟨_, _, rfl, rfl⟩
  | int n =>
    rw [canonicalChars, intChars_eq]
    exact first_signed (first_decimalChars _)
  | float x =>
    rw [canonicalChars]
    exact first_signed x.numeral_write.first
  | text t => exact ⟨'"', _, rfl, rfl⟩
  | list items => exact ⟨'[', _, rfl, rfl⟩
  | object fields => exact ⟨'{', _, rfl, rfl⟩

/-! ### Whole values -/

/-- Equality up to the order of fields: integers by value, doubles by their bits. -/
def identical (a b : Json) : Bool :=
  a.sameBy (fun x y => x == y) b

/-- Objects are identical when the fields of one can be put in an order in which each is that of the
other, by name and by value. -/
theorem identical_object_iff {as bs : List (String × Json)} (ha : (as.map Prod.fst).Nodup)
    (hb : (bs.map Prod.fst).Nodup) :
    (Json.object as).identical (.object bs) = true ↔
      ∃ cs, cs.Perm as ∧
        List.Forall₂ (fun f g => f.1 = g.1 ∧ f.2.identical g.2 = true) cs bs := by
  constructor
  · intro h
    have hsorted := (sameBy_object_iff ha hb).1 h
    have hboth : Relation.Comp List.Perm
        (List.Forall₂ fun f g => f.1 = g.1 ∧ f.2.identical g.2 = true) (sortFields as) bs := by
      rw [← List.forall₂_comp_perm_eq_perm_comp_forall₂]
      exact ⟨sortFields bs, hsorted, sortFields_perm bs⟩
    obtain ⟨cs, hcs, hfields⟩ := hboth
    exact ⟨cs, hcs.symm.trans (sortFields_perm as), hfields⟩
  · rintro ⟨cs, hcs, hfields⟩
    exact sameBy_object_of_perm hb hcs (.refl bs) hfields

theorem kind_eq_of_identical {a b : Json} (h : a.identical b = true) : a.kind = b.kind := by
  cases a <;> cases b <;> first | rfl | cases h

theorem sameTextIff_of_kind_ne {a b : Json} (h : a.kind ≠ b.kind) :
    SameTextIff a.canonicalChars b.canonicalChars (a.identical b = true) := by
  intro r s _ _
  constructor
  · intro htexts
    obtain ⟨c, rest, ha, hc⟩ := first_canonicalChars a
    obtain ⟨d, rest', hb, hd⟩ := first_canonicalChars b
    rw [ha, hb] at htexts
    obtain ⟨rfl, -⟩ := List.cons.inj htexts
    rw [hc] at hd
    exact absurd (Option.some.inj hd) h
  · rintro ⟨hidentical, -⟩
    exact absurd (kind_eq_of_identical hidentical) h

theorem isNumeral_of_mem_canonicalChars {v : Json} (hv : v.kind = .number) :
    ∀ c ∈ v.canonicalChars, Decimal.isNumeral c = true := by
  cases v with
  | int n => exact fun _ => isNumeral_of_mem_intChars
  | float x => exact fun _ => Binary64.isNumeral_of_mem_chars
  | _ => cases hv

theorem canonicalChars_eq_iff_of_numbers {a b : Json} (ha : a.kind = .number)
    (hb : b.kind = .number) : a.canonicalChars = b.canonicalChars ↔ a.identical b = true := by
  cases a with
  | int m =>
    cases b with
    | int n => simpa [identical, sameBy, canonicalChars] using ⟨intChars_inj, congrArg intChars⟩
    | float y => simpa [identical, sameBy, canonicalChars] using intChars_ne_chars m y
    | _ => cases hb
  | float x =>
    cases b with
    | int n => simpa [identical, sameBy, canonicalChars] using (intChars_ne_chars n x).symm
    | float y =>
      simpa [identical, sameBy, canonicalChars] using
        ⟨Binary64.chars_inj, congrArg Binary64.chars⟩
    | _ => cases hb
  | _ => cases ha

theorem sameTextIff_of_numbers {a b : Json} (ha : a.kind = .number) (hb : b.kind = .number) :
    SameTextIff a.canonicalChars b.canonicalChars (a.identical b = true) := by
  intro r s hr hs
  rw [← canonicalChars_eq_iff_of_numbers ha hb]
  constructor
  · exact run_append_inj (isNumeral_of_mem_canonicalChars ha) (isNumeral_of_mem_canonicalChars hb)
      hr.not_isNumeral hs.not_isNumeral
  · rintro ⟨hab, rfl⟩
    rw [hab]

theorem sameTextIff_field {f g : String × Json}
    (h : SameTextIff f.2.canonicalChars g.2.canonicalChars (f.2.identical g.2 = true)) :
    SameTextIff (fieldChars (f.1, f.2.canonicalChars)) (fieldChars (g.1, g.2.canonicalChars))
      (f.1 = g.1 ∧ f.2.identical g.2 = true) := by
  intro r s hr hs
  simp only [fieldChars, List.append_assoc, List.cons_append, textChars_append_iff, List.cons.injEq,
    true_and, h r s hr hs, and_assoc]

/-- Texts of values agree, whatever closes them, just when the values are equal up to the order of
fields. -/
theorem sameTextIff_canonicalChars {a b : Json} (ha : a.Distinct) (hb : b.Distinct) :
    SameTextIff a.canonicalChars b.canonicalChars (a.identical b = true) := by
  -- Only two numbers need to know what closes them; the other texts end by themselves.
  induction ha generalizing b with
  | null =>
    cases hb with
    | null => simp [SameTextIff, identical, sameBy]
    | _ => exact sameTextIff_of_kind_ne (by simp [kind])
  | bool x =>
    cases hb with
    | bool y => cases x <;> cases y <;> simp [SameTextIff, identical, sameBy, canonicalChars]
    | _ => exact sameTextIff_of_kind_ne (by simp [kind])
  | int m =>
    cases hb with
    | int n => exact sameTextIff_of_numbers rfl rfl
    | float y => exact sameTextIff_of_numbers rfl rfl
    | _ => exact sameTextIff_of_kind_ne (by simp [kind])
  | float x =>
    cases hb with
    | int n => exact sameTextIff_of_numbers rfl rfl
    | float y => exact sameTextIff_of_numbers rfl rfl
    | _ => exact sameTextIff_of_kind_ne (by simp [kind])
  | text t =>
    cases hb with
    | text u =>
      intro r s _ _
      simpa [identical, sameBy, canonicalChars] using textChars_append_iff t u r s
    | _ => exact sameTextIff_of_kind_ne (by simp [kind])
  | @list as each ih =>
    cases hb with
    | @list bs each' =>
      intro r s _ _
      have hopen (v : Json) : ∃ c rest, v.canonicalChars = c :: rest ∧ c ≠ ']' := by
        obtain ⟨c, rest, hv, hc⟩ := first_canonicalChars v
        refine ⟨c, rest, hv, ?_⟩
        rintro rfl
        cases hc
      have hitems := commaSeparated_close_iff (.inl rfl) hopen
        (fun v hv w hw => ih v hv (each' w hw)) r s
      rw [identical, sameBy_list_iff, canonicalChars, canonicalChars, canonicalItems_eq,
        canonicalItems_eq]
      simpa [identical] using hitems
    | _ => exact sameTextIff_of_kind_ne (by simp [kind])
  | @object as names each ih =>
    cases hb with
    | @object bs names' each' =>
      intro r s _ _
      have hopen (f : String × Json) :
          ∃ c rest, fieldChars (f.1, f.2.canonicalChars) = c :: rest ∧ c ≠ '}' :=
        ⟨'"', _, rfl, by decide⟩
      have hfields := commaSeparated_close_iff (.inr rfl) hopen
        (fun f hf g hg => sameTextIff_field
          (ih f (mem_sortFields.1 hf) (each' g (mem_sortFields.1 hg)))) r s
      rw [identical, sameBy_object_iff names names', canonicalChars_object, canonicalChars_object]
      simpa [identical] using hfields
    | _ => exact sameTextIff_of_kind_ne (by simp [kind])

/-- Values have the same bytes just when they are equal up to the order of fields at every level. -/
theorem ofText_canonical_eq_iff {a b : Json} (ha : a.Distinct) (hb : b.Distinct) :
    Bytes.ofText a.canonical = Bytes.ofText b.canonical ↔ a.identical b = true := by
  have htexts := sameTextIff_canonicalChars ha hb [] [] closing_nil closing_nil
  rw [List.append_nil, List.append_nil, and_iff_left rfl] at htexts
  rw [← htexts]
  constructor
  · intro h
    exact String.ofList_inj.1 (Bytes.ofText_inj h)
  · intro h
    rw [canonical, canonical, h]

namespace Nested

def left : Json :=
  .object [("b", .list [.object [("y", .float ⟨0x4000000000000000⟩), ("x", .text "\"]")], .int 1]),
    ("a", .null)]

def right : Json :=
  .object [("a", .null),
    ("b", .list [.object [("x", .text "\"]"), ("y", .float ⟨0x4000000000000000⟩)], .int 1])]

def renumbered : Json :=
  .object [("a", .null), ("b", .list [.object [("x", .text "\"]"), ("y", .int 2)], .int 1])]

theorem reordered_and_renumbered :
    left.Distinct ∧ right.Distinct ∧ renumbered.Distinct ∧
      Bytes.ofText left.canonical = Bytes.ofText right.canonical ∧
        Bytes.ofText left.canonical ≠ Bytes.ofText renumbered.canonical := by
  have hleft : left.Distinct := distinct_merged left
  have hright : right.Distinct := distinct_merged right
  have hrenumbered : renumbered.Distinct := distinct_merged renumbered
  have hsame : left.identical right = true :=
    (identical_object_iff (by decide) (by decide)).2
      ⟨_, .swap _ _ _, .cons ⟨rfl, rfl⟩ (.cons ⟨rfl, rfl⟩ .nil)⟩
  have hdiffer : ¬ left.identical renumbered = true := by decide
  exact ⟨hleft, hright, hrenumbered, (ofText_canonical_eq_iff hleft hright).2 hsame,
    fun h => hdiffer ((ofText_canonical_eq_iff hleft hrenumbered).1 h)⟩

end Nested

end CacheAside.Json
