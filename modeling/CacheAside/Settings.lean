import CacheAside.Fault
import CacheAside.Map.Policy
import CacheAside.Number.Unsigned
import CacheAside.Text.Utf8
import CacheAside.Text.Whitespace

set_option autoImplicit false

namespace CacheAside

/-- What the environment has under a name; garbled bytes are not UTF-8. -/
inductive EnvValue where
  | unset
  | text (value : String)
  | garbled (bytes : Bytes)
  deriving DecidableEq, Repr

inductive Variable where
  | uri
  | database
  | collection
  | splits
  | capacity
  | ttlSeconds
  deriving DecidableEq, Repr

def Variable.name : Variable → String
  | .uri => "MONGODB_URI"
  | .database => "MONGODB_DATABASE"
  | .collection => "GRIDCACHE_COLLECTION"
  | .splits => "GRIDCACHE_WARMUP_SPLITS"
  | .capacity => "GRIDCACHE_MAP_CAPACITY"
  | .ttlSeconds => "GRIDCACHE_MAP_TTL_SECS"

abbrev Environment : Type := Variable → EnvValue

inductive SettingsError where
  | noUri (garbled? : Option Bytes)
  | badNumber (variable_ : Variable) (raw : String) (cause : UnsignedError)
  deriving DecidableEq, Repr

def SettingsError.fault : SettingsError → Fault
  | .noUri none =>
    (Fault.ofText "environment variable not found").within "MONGODB_URI must be set"
  | .noUri (some bs) =>
    (Fault.ofText ("environment variable was not valid unicode: " ++ Text.quotedBytes bs)).within
      "MONGODB_URI must be set"
  | .badNumber v raw cause =>
    (Fault.ofText cause.message).within
      (v.name ++ " must be a number, got " ++ Text.quoted raw)

/-- What a warm-up is told; no seconds at all turn expiry off. -/
structure Settings where
  uri : String
  database : String
  collection : String
  splits : Nat
  capacity : Nat
  ttlSeconds : Nat
  deriving DecidableEq, Repr

namespace Settings

def textOr (env : Environment) (v : Variable) (standard : String) : String :=
  match env v with
  | .text s => s
  | _ => standard

def numberOr (env : Environment) (v : Variable) (standard : Nat) : Except SettingsError Nat :=
  match env v with
  | .text raw =>
    match Unsigned.read 0x10000000000000000 (Text.trim raw.toList) with
    | .ok n => .ok n
    | .error cause => .error (.badNumber v raw cause)
  | _ => .ok standard

def readUri (env : Environment) : Except SettingsError String :=
  match env .uri with
  | .text s => .ok s
  | .unset => .error (.noUri none)
  | .garbled bs => .error (.noUri (some bs))

/-- Reads the variables in order and reports the first that cannot be used. -/
def read (env : Environment) : Except SettingsError Settings := do
  let uri ← readUri env
  let splits ← numberOr env .splits 16
  let capacity ← numberOr env .capacity 10000
  let ttlSeconds ← numberOr env .ttlSeconds 300
  return {
    uri, splits, capacity, ttlSeconds
    database := textOr env .database "gridcache"
    collection := textOr env .collection "records" }

def mapPolicy (s : Settings) : MapPolicy :=
  { MapPolicy.ofCapacity s.capacity with
    ttl := if s.ttlSeconds = 0 then none else some (s.ttlSeconds * nanosPerSecond) }

end Settings

end CacheAside
