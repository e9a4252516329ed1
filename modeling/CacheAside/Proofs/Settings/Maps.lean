import CacheAside.Proofs.Grid.Registry
import CacheAside.Proofs.Map.Refinement
import CacheAside.Proofs.Settings.Sources
/-!
Maps of a grid that takes its standard policy from settings. A map under whose name no policy was
set keeps to the settings, whatever its host does with it. What goes unseen when settings are read
is a life of entries that no map can be built with: it crashes the grid later, when a map is opened
for the first time.
-/

set_option autoImplicit false

namespace CacheAside

def Environment.Overlong (env : Environment) : Prop :=
  ∃ raw n, env .ttlSeconds = .text raw ∧ SaysNumber raw n ∧ 31536000000 < n

namespace Settings

/-- A map does what the settings say, from any state of its host on. The host has two reasons to
take entries out: there are more than the capacity, and then as many as that are left, or an entry
was written too long ago. No seconds at all are no reason. -/
structure Governs (s : Settings) {V : Type} (m : EntryMap V) : Prop where
  enforcedCapacity : m.policy.enforcedCapacity = some s.capacity
  ttl : m.policy.ttl = if s.ttlSeconds = 0 then none else some (s.ttlSeconds * nanosPerSecond)
  tti : m.policy.tti = none
  crowded_iff : ∀ (h : HostedMap V) (steps : List (HostStep V)), h.map = m →
    ((h.run steps).2.Crowded ↔ s.capacity < (h.run steps).2.map.size)
  size_tidy : ∀ (h : HostedMap V) (steps : List (HostStep V)), h.map = m →
    (h.run steps).2.map.tidy.size = min s.capacity (h.run steps).2.map.size
  aged_iff : ∀ (h : HostedMap V) (steps : List (HostStep V)), h.map = m → ∀ k,
    ((h.run steps).2.Aged k ↔ s.ttlSeconds ≠ 0 ∧
      (h.run steps).2.written k + s.ttlSeconds * nanosPerSecond ≤ (h.run steps).2.now)

variable {env : Environment} {s : Settings}

theorem ttl_mapPolicy (s : Settings) :
    s.mapPolicy.ttl = if s.ttlSeconds = 0 then none else some (s.ttlSeconds * nanosPerSecond) :=
  rfl

theorem exceeds_ttl_mapPolicy (s : Settings) :
    MapPolicy.exceeds s.mapPolicy.ttl = true ↔ 31536000000 < s.ttlSeconds := by
  rw [ttl_mapPolicy, MapPolicy.exceeds, MapPolicy.longestLife, nanosPerSecond]
  split
  · simp [*]
  · rw [Option.any_some, decide_eq_true_eq, Nat.mul_lt_mul_right (by decide)]

theorem tti_mapPolicy (s : Settings) : s.mapPolicy.tti = none :=
  rfl

theorem flaw?_mapPolicy (s : Settings) :
    s.mapPolicy.flaw? = if 31536000000 < s.ttlSeconds then some .ttlTooLong else none := by
  have hidle : MapPolicy.exceeds s.mapPolicy.tti = false := rfl
  simp [MapPolicy.flaw?, exceeds_ttl_mapPolicy, hidle]

theorem enforcedCapacity_mapPolicy (s : Settings) :
    s.mapPolicy.enforcedCapacity = some s.capacity :=
  rfl

theorem policy_run_of_policy {V : Type} {h : HostedMap V} (hp : h.map.policy = s.mapPolicy)
    (steps : List (HostStep V)) : (h.run steps).2.map.policy = s.mapPolicy :=
  (h.policy_run steps).trans hp

theorem governs_of_policy {V : Type} {m : EntryMap V} (hm : m.policy = s.mapPolicy) :
    s.Governs m where
  enforcedCapacity := by rw [hm, enforcedCapacity_mapPolicy]
  ttl := by rw [hm, ttl_mapPolicy]
  tti := by rw [hm, tti_mapPolicy]
  crowded_iff h steps hmap := by
    have hpolicy := policy_run_of_policy (hmap ▸ hm) steps
    simp [HostedMap.Crowded, hpolicy, enforcedCapacity_mapPolicy]
  size_tidy h steps hmap := by
    have hpolicy := policy_run_of_policy (hmap ▸ hm) steps
    simp [EntryMap.tidy, hpolicy, enforcedCapacity_mapPolicy, EntryMap.size, Table.size, Table.take]
  aged_iff h steps hmap k := by
    have hpolicy := policy_run_of_policy (hmap ▸ hm) steps
    by_cases hzero : s.ttlSeconds = 0 <;>
      simp [HostedMap.Aged, hpolicy, ttl_mapPolicy, tti_mapPolicy, hzero]

theorem overlong_iff (hread : read env = .ok s) : env.Overlong ↔ 31536000000 < s.ttlSeconds := by
  have hmade : (env .ttlSeconds).legible.Makes .ttlSeconds (.number s.ttlSeconds) :=
    read_eq_ok_iff.1 hread .ttlSeconds
  cases henv : env .ttlSeconds with
  | text raw =>
    rw [henv] at hmade
    have hsays : SaysNumber raw s.ttlSeconds := hmade.2
    constructor
    · rintro ⟨raw', n, henv', hn, hlt⟩
      obtain rfl : raw = raw' := by simpa [henv] using henv'
      have heq := (saysNumber_iff.1 hsays).symm.trans (saysNumber_iff.1 hn)
      exact Except.ok.inj heq ▸ hlt
    · exact fun hlt => ⟨raw, _, henv, hsays, hlt⟩
  | unset | garbled =>
    have hstandard : 300 = s.ttlSeconds := by
      simpa [henv, EnvValue.legible, EnvValue.Makes, Variable.standard?] using hmade
    simp [Environment.Overlong, henv, ← hstandard]

variable {Kind : Type} {Val : Kind → Type} [DecidableEq Kind] {g : Grid Kind Val}
  {past : List (GridReply Val)} {name : String}

theorem policyOf_of_unset (runs : (Grid.create s.mapPolicy : Grid Kind Val).Runs g past)
    (unset : (GridReply.since name past).findSome? (·.accepted? name) = none) :
    g.policyOf name = s.mapPolicy := by
  rw [Grid.policyOf, runs.policies_eq, runs.standard_eq, unset]
  rfl

/-- After any calls on a grid with the policy of settings that were read, opening a name under which
no policy is set crashes just when there is no map yet and entries are to live too long. If they are
not and there is no map yet, an empty one is had. Any map that is had does what the settings say. -/
theorem opens_unless_overlong (hread : read env = .ok s)
    (runs : (Grid.create s.mapPolicy : Grid Kind Val).Runs g past)
    (unset : (GridReply.since name past).findSome? (·.accepted? name) = none) (k : Kind) :
    (∀ flaw, (g.openMap name k).1 = .error (.flawed flaw) ↔
        g.contains name = false ∧ env.Overlong ∧ flaw = .ttlTooLong) ∧
      (g.contains name = false → ¬ env.Overlong →
        ∃ h, (g.openMap name k).1 = .ok h ∧
          (g.openMap name k).2.map? h = some ⟨name, s.mapPolicy, ∅⟩) ∧
      ∀ h, (g.openMap name k).1 = .ok h →
        ∃ m, (g.openMap name k).2.map? h = some m ∧ m.name = name ∧ s.Governs m := by
  have hpolicy : g.policyOf name = s.mapPolicy := policyOf_of_unset runs unset
  refine ⟨fun flaw => ?_, fun habsent hshort => ?_, fun h had => ?_⟩
  · rw [Grid.openMap_flawed_iff, hpolicy, flaw?_mapPolicy, overlong_iff hread]
    by_cases hlong : 31536000000 < s.ttlSeconds <;> simp [hlong, eq_comm (a := flaw)]
  · have hflaw : (g.policyOf name).flaw? = none := by
      rw [hpolicy, flaw?_mapPolicy, if_neg (mt (overlong_iff hread).2 hshort)]
    rw [Grid.openMap_of_unflawed habsent hflaw]
    exact ⟨_, rfl, by rw [Grid.map?_added_new, hpolicy]⟩
  · have hs : g.Sound := runs.sound (Grid.sound_create _)
    obtain ⟨m, hm, hname, hmpolicy⟩ := Grid.map?_of_openMap hs had
    exact ⟨m, hm, hname, governs_of_policy (hmpolicy.trans hpolicy)⟩

end Settings

namespace Settings.Lives

def env (seconds : String) : Environment
  | .uri => .text "mongodb://localhost"
  | .capacity => .text "42"
  | .ttlSeconds => .text seconds
  | _ => .unset

def settings (seconds : Nat) : Settings :=
  ⟨"mongodb://localhost", "gridcache", "records", 16, 42, seconds⟩

def Worth (k : Bool) : Type :=
  if k then String else Nat

theorem opens_again :
    ∃ (g : Grid Bool Worth) (past : List (GridReply Worth)) (h : Handle false)
      (m : EntryMap (Worth false)),
      read (env " 60 ") = .ok (settings 60) ∧
        (Grid.create (settings 60).mapPolicy).Runs g past ∧
        (GridReply.since "users" past).findSome? (·.accepted? "users") = none ∧
        past.length = 3 ∧ (g.openMap "users" false).1 = .ok h ∧
        (g.openMap "users" false).2.map? h = some m ∧ (settings 60).Governs m := by
  have runs := ((((.nil : (Grid.create (settings 60).mapPolicy : Grid Bool Worth).Runs _ []).call
    (.configure "users" .bulk)).call (.openMap "users" true)).call (.drop "users"))
  have hread : read (env " 60 ") = .ok (settings 60) := rfl
  obtain ⟨-, opens, governs⟩ :=
    @opens_unless_overlong _ _ _ _ _ _ _ "users" hread runs rfl false
  have hshort : ¬ (env " 60 ").Overlong := mt (overlong_iff hread).1 (by decide)
  obtain ⟨h, had, -⟩ := opens rfl hshort
  obtain ⟨m, hm, -, hgoverns⟩ := governs h had
  exact ⟨_, _, h, m, hread, runs, rfl, rfl, had, hm, hgoverns⟩

theorem crashes_when_opened :
    read (env "31536000001") = .ok (settings 31536000001) ∧
      ((Grid.create (settings 31536000001).mapPolicy : Grid Bool Worth).openMap "users" true).1 =
        .error (.flawed .ttlTooLong) :=
  ⟨rfl, rfl⟩

end Settings.Lives

end CacheAside
