import CacheAside.Proofs.Outcome
import CacheAside.Proofs.Settings.Numerals
import CacheAside.Settings
/-!
Where settings come from. A setting is what its variable says, and the standard one only where the
variable is unset. Except for the address, a variable that is no text is passed over as if it were
unset, which is the one way in which a given value is ignored.
-/

set_option autoImplicit false

namespace CacheAside

inductive SettingValue where
  | text (value : String)
  | number (value : Nat)
  deriving DecidableEq, Repr

/-- Decimal digits for a number of 64 bits, perhaps behind a plus sign, with white space around. -/
def SaysNumber (raw : String) (n : Nat) : Prop :=
  ∃ kept, Text.Trimmed raw.toList kept ∧ Unsigned.Spells kept n ∧ n < 2 ^ 64

namespace Variable

def isNumeric : Variable → Bool
  | .uri | .database | .collection => false
  | .splits | .capacity | .ttlSeconds => true

def standard? : Variable → Option SettingValue
  | .uri => none
  | .database => some (.text "gridcache")
  | .collection => some (.text "records")
  | .splits => some (.number 16)
  | .capacity => some (.number 10000)
  | .ttlSeconds => some (.number 300)

def Means (v : Variable) (raw : String) : SettingValue → Prop
  | .text value => v.isNumeric = false ∧ value = raw
  | .number n => v.isNumeric = true ∧ SaysNumber raw n

end Variable

namespace EnvValue

/-- The setting that a variable's value makes. -/
def Makes (v : Variable) (x : SettingValue) : EnvValue → Prop
  | .unset => v.standard? = some x
  | .text raw => v.Means raw x
  | .garbled _ => False

/-- The value with what is no text passed over. -/
def legible : EnvValue → EnvValue
  | .garbled _ => .unset
  | x => x

end EnvValue

def Environment.Unusable (env : Environment) : Prop :=
  (∀ raw, env .uri ≠ .text raw) ∨
    ∃ v raw, v.isNumeric = true ∧ env v = .text raw ∧ ∀ n, ¬ SaysNumber raw n

def SettingsError.Blames (env : Environment) : SettingsError → Prop
  | .noUri none => env .uri = .unset
  | .noUri (some bytes) => env .uri = .garbled bytes
  | .badNumber v raw _ => v.isNumeric = true ∧ env v = .text raw ∧ ∀ n, ¬ SaysNumber raw n

theorem SettingsError.Blames.unusable {env : Environment} {e : SettingsError}
    (h : e.Blames env) : Environment.Unusable env := by
  match e with
  | .noUri none => exact .inl fun raw => by rw [show env .uri = .unset from h]; exact nofun
  | .noUri (some bytes) =>
    exact .inl fun raw => by rw [show env .uri = .garbled bytes from h]; exact nofun
  | .badNumber v raw _ => exact .inr ⟨v, raw, h⟩

namespace Settings

def value (s : Settings) : Variable → SettingValue
  | .uri => .text s.uri
  | .database => .text s.database
  | .collection => .text s.collection
  | .splits => .number s.splits
  | .capacity => .number s.capacity
  | .ttlSeconds => .number s.ttlSeconds

def Heeds (s : Settings) (env : Environment) : Prop :=
  ∀ v, (env v).Makes v (s.value v)

theorem saysNumber_iff {raw : String} {n : Nat} :
    SaysNumber raw n ↔
      Unsigned.read 0x10000000000000000 (Text.trim raw.toList) = .ok n := by
  rw [Unsigned.read_eq_ok_iff (by decide), SaysNumber]
  constructor
  · rintro ⟨kept, hkept, h⟩
    rwa [Text.trimmed_iff.1 hkept]
  · exact fun h => ⟨_, Text.trimmed_trim _, h⟩

variable {env : Environment} {v : Variable}

theorem readUri_eq_ok_iff {uri : String} :
    readUri env = .ok uri ↔ (env .uri).legible.Makes .uri (.text uri) := by
  unfold readUri
  cases env .uri <;>
    simp [EnvValue.legible, EnvValue.Makes, Variable.standard?, Variable.Means, Variable.isNumeric,
      eq_comm]

theorem textOr_eq_iff {standard value : String} (hv : v.isNumeric = false)
    (hs : v.standard? = some (.text standard)) :
    textOr env v standard = value ↔ (env v).legible.Makes v (.text value) := by
  unfold textOr
  cases env v <;> simp [EnvValue.legible, EnvValue.Makes, Variable.Means, hv, hs, eq_comm]

theorem numberOr_eq_ok_iff {standard n : Nat} (hv : v.isNumeric = true)
    (hs : v.standard? = some (.number standard)) :
    numberOr env v standard = .ok n ↔ (env v).legible.Makes v (.number n) := by
  unfold numberOr
  cases henv : env v with
  | text raw =>
    simp only [EnvValue.legible, EnvValue.Makes, Variable.Means, hv, true_and, saysNumber_iff]
    cases Unsigned.read 0x10000000000000000 (Text.trim raw.toList) <;> simp
  | unset | garbled => simp [EnvValue.legible, EnvValue.Makes, hs]

theorem heeds_iff {s : Settings} :
    s.Heeds env ↔ (env .uri).Makes .uri (.text s.uri) ∧
      (env .splits).Makes .splits (.number s.splits) ∧
      (env .capacity).Makes .capacity (.number s.capacity) ∧
      (env .ttlSeconds).Makes .ttlSeconds (.number s.ttlSeconds) ∧
      (env .database).Makes .database (.text s.database) ∧
      (env .collection).Makes .collection (.text s.collection) := by
  constructor
  · exact fun h => ⟨h .uri, h .splits, h .capacity, h .ttlSeconds, h .database, h .collection⟩
  · rintro ⟨uri, splits, capacity, ttlSeconds, database, collection⟩ v
    cases v <;> assumption

/-- What is read heeds the environment, but for what is passed over in it. -/
theorem read_eq_ok_iff {s : Settings} :
    read env = .ok s ↔ s.Heeds fun v => (env v).legible := by
  rw [heeds_iff, ← readUri_eq_ok_iff, ← numberOr_eq_ok_iff rfl rfl, ← numberOr_eq_ok_iff rfl rfl,
    ← numberOr_eq_ok_iff rfl rfl, ← textOr_eq_iff rfl rfl, ← textOr_eq_iff rfl rfl]
  simp only [read, bind_eq_ok_iff]
  constructor
  · rintro ⟨uri, huri, splits, hsplits, capacity, hcapacity, ttlSeconds, httl, hs⟩
    cases hs
    exact ⟨huri, hsplits, hcapacity, httl, rfl, rfl⟩
  · rintro ⟨huri, hsplits, hcapacity, httl, hdatabase, hcollection⟩
    refine ⟨_, huri, _, hsplits, _, hcapacity, _, httl, ?_⟩
    rw [hdatabase, hcollection]
    rfl

theorem blames_of_readUri {e : SettingsError} (h : readUri env = .error e) : e.Blames env := by
  unfold readUri at h
  split at h <;> cases h <;> assumption

theorem blames_of_numberOr {standard : Nat} {e : SettingsError} (hv : v.isNumeric = true)
    (h : numberOr env v standard = .error e) : e.Blames env := by
  unfold numberOr at h
  split at h
  · rename_i raw henv
    split at h
    · cases h
    · rename_i cause hread
      cases h
      refine ⟨hv, henv, fun n hn => ?_⟩
      rw [saysNumber_iff.1 hn] at hread
      cases hread
  · cases h

theorem blames_of_read {e : SettingsError} (h : read env = .error e) : e.Blames env := by
  simp only [read, bind_eq_error_iff] at h
  obtain h | ⟨_, -, h | ⟨_, -, h | ⟨_, -, h | ⟨_, -, h⟩⟩⟩⟩ := h
  · exact blames_of_readUri h
  · exact blames_of_numberOr rfl h
  · exact blames_of_numberOr rfl h
  · exact blames_of_numberOr rfl h
  · cases h

theorem saysNumber_of_value {s : Settings} {raw : String} (hv : v.isNumeric = true)
    (h : v.Means raw (s.value v)) : ∃ n, SaysNumber raw n := by
  cases v with
  | uri | database | collection => cases hv
  | splits | capacity | ttlSeconds => exact ⟨_, And.right h⟩

theorem not_unusable_of_read {s : Settings} (h : read env = .ok s) :
    ¬ Environment.Unusable env := by
  have heeds := read_eq_ok_iff.1 h
  rintro (hnone | ⟨v, raw, hv, henv, hnumber⟩)
  · have huri := heeds .uri
    cases henv : env .uri with
    | text raw => exact hnone raw henv
    | unset | garbled => simp [henv, EnvValue.legible, EnvValue.Makes, Variable.standard?] at huri
  · have hmade := heeds v
    simp only [henv, EnvValue.legible, EnvValue.Makes] at hmade
    obtain ⟨n, hn⟩ := saysNumber_of_value hv hmade
    exact hnumber n hn

section Legible

variable {s : Settings}

theorem legible_of_ne (h : ∀ bytes, env v ≠ .garbled bytes) : (env v).legible = env v := by
  cases henv : env v with
  | unset | text => rfl
  | garbled bytes => exact absurd henv (h bytes)

theorem Heeds.ne_garbled (h : s.Heeds env) (v : Variable) (bytes : Bytes) :
    env v ≠ .garbled bytes := by
  intro henv
  have := h v
  rwa [henv] at this

theorem heeds_legible_iff (h : ∀ v bytes, env v ≠ .garbled bytes) :
    (s.Heeds fun v => (env v).legible) ↔ s.Heeds env := by
  simp only [Heeds, legible_of_ne (h _)]

theorem standard?_of_garbled (h : read env = .ok s) {bytes : Bytes} (hv : env v = .garbled bytes) :
    v.standard? = some (s.value v) := by
  have hmade : (env v).legible.Makes v (s.value v) := read_eq_ok_iff.1 h v
  rwa [hv] at hmade

end Legible

/-- What is read heeds the whole environment just when all of it is legible; a variable that is not
leaves its setting at the standard. Nothing is read just when there is no address or a text that has
to say a number says none, and then the error is about such a variable. -/
theorem heeds_iff_legible (env : Environment) :
    (∀ s, read env = .ok s → (s.Heeds env ↔ ∀ v bytes, env v ≠ .garbled bytes)) ∧
      (∀ s v bytes, read env = .ok s → env v = .garbled bytes →
        v.standard? = some (s.value v)) ∧
      (∀ s, s.Heeds env → read env = .ok s) ∧
      ((∃ e, read env = .error e) ↔ Environment.Unusable env) ∧
      ∀ e, read env = .error e → e.Blames env := by
  refine ⟨fun s hs => ⟨Heeds.ne_garbled, fun h => ?_⟩,
    fun s v bytes hs hv => standard?_of_garbled hs hv, fun s hs => ?_,
    ⟨fun ⟨e, he⟩ => (blames_of_read he).unusable, fun h => ?_⟩, fun e => blames_of_read⟩
  · exact (heeds_legible_iff h).1 (read_eq_ok_iff.1 hs)
  · exact read_eq_ok_iff.2 ((heeds_legible_iff hs.ne_garbled).2 hs)
  · cases hread : read env with
    | error e => exact ⟨e, rfl⟩
    | ok s => exact absurd h (not_unusable_of_read hread)

end Settings

namespace Settings.Garbled

def env : Environment
  | .uri => .text "mongodb://localhost"
  | .database => .garbled [0xff]
  | .ttlSeconds => .garbled [0x36, 0x30, 0xff]
  | _ => .unset

theorem standard_for_garbled :
    read env = .ok ⟨"mongodb://localhost", "gridcache", "records", 16, 10000, 300⟩ ∧
      ∀ s, read env = .ok s → ¬ s.Heeds env := by
  refine ⟨rfl, fun s _ h => ?_⟩
  exact h .database

end Settings.Garbled

end CacheAside
