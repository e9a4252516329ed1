import CacheAside.Access.Tiers
import CacheAside.Grid
import CacheAside.Warmup.Report
/-!
Loading a span of a store into a map of a grid. The span is divided into parts, each loaded by a
task of its own; a part that fails does not stop the others, and outcomes are filed by part. The
tasks may make their calls in any order, and be joined in any order.
-/

set_option autoImplicit false

namespace CacheAside

variable {E : Type} [Entity E]

/-- Puts each row it is given under its key, unless the put under that key is refused; the state
is the map and the number of rows put. -/
def gridConsumer (refuses : Key → Option Fault) : Consumer (EntryMap E × Nat) E :=
  fun (map, inserted) e =>
    match Work.stampedRow e with
    | .error f => (.error f, map, inserted)
    | .ok (key, e) =>
      match refuses key with
      | some f => (.error f, map, inserted)
      | none => (.ok (), map.put key e, inserted + 1)

namespace Warmup

abbrev LoadTiers (E : Type) : Type := Tiers E Unit Unit

abbrev Weather (E : Type) : Type := Work E Unit → Conduct E

def loader : Client Unit := ⟨none, 0⟩

def begin (map : EntryMap E) (store : RowStore E) (parts : List Span) : LoadTiers E :=
  parts.foldl (fun s part => (s.ask loader (.load part)).2) (.create map store)

def finishTask (weather : Weather E) (number : Nat) : Nat → LoadTiers E → LoadTiers E
  | 0, s => s
  | fuel + 1, s =>
    match s.tasks[number]? >>= (·.work?) with
    | none => s
    | some w => finishTask weather number fuel (s.call number (weather w))

def finish (weather : Weather E) (s : LoadTiers E) : LoadTiers E :=
  (List.range s.tasks.length).foldl
    (fun t i => finishTask weather i (s.store.size + 2) t) s

omit [Entity E] in
def ending? (s : LoadTiers E) (number : Nat) : Option (Ending Fault Nat) :=
  match s.result? number with
  | some (.ok (.loaded e)) => some e
  | _ => none

def runTask (weather : Weather E) (t : LoadTask) (map : EntryMap E) (store : RowStore E) :
    Ending Fault Nat × EntryMap E × RowStore E :=
  let s := finish weather (begin map store [t.span])
  let ending := match ending? s 0 with
    | some (.error f) => .error (t.wrap f)
    | some e => e
    | none => .crash ""
  (ending, s.map, s.store)

end Warmup

/-- A load in progress. Its tasks have the numbers of their parts, and a part counts as lost until
its task is joined. -/
structure LoadJob (E : Type) where
  mapName : String
  parts : List Span
  tiers : Warmup.LoadTiers E
  outcomes : List RangeOutcome
  joined : List Nat

inductive LoadStep where
  | turn (task : Nat)
  | join (task : Nat)
  deriving DecidableEq, Repr

namespace LoadJob

open Warmup

def start (map : EntryMap E) (store : RowStore E) (mapName : String) (parts : List Span) :
    LoadJob E :=
  ⟨mapName, parts, begin map store parts, parts.map fun part => .ofEnding ⟨part, mapName⟩ none, []⟩

/-- Lets a task make its next call; nothing happens if it is done. -/
def turn (weather : Weather E) (l : LoadJob E) (task : Nat) : LoadJob E :=
  match l.tiers.tasks[task]? >>= (·.work?) with
  | none => l
  | some w => { l with tiers := l.tiers.call task (weather w) }

omit [Entity E] in
def join (l : LoadJob E) (task : Nat) : LoadJob E :=
  match l.parts[task]?, ending? l.tiers task with
  | some part, some e =>
    if task ∈ l.joined then l
    else { l with
      outcomes := l.outcomes.set task (.ofEnding ⟨part, l.mapName⟩ (some e))
      joined := l.joined ++ [task] }
  | _, _ => l

def step (weather : Weather E) (l : LoadJob E) : LoadStep → LoadJob E
  | .turn task => l.turn weather task
  | .join task => l.join task

def run (weather : Weather E) (l : LoadJob E) (steps : List LoadStep) : LoadJob E :=
  steps.foldl (step weather) l

omit [Entity E] in
def isOver (l : LoadJob E) : Bool :=
  (List.range l.parts.length).all (· ∈ l.joined)

def oneByOne (weather : Weather E) (l : LoadJob E) : LoadJob E :=
  (List.range l.parts.length).foldl join { l with tiers := finish weather l.tiers }

omit [Entity E] in
def report (l : LoadJob E) (span : Span) : LoadReport :=
  { mapName := l.mapName
    outcomes := l.outcomes
    skippedLast := span.excludesLast }

end LoadJob

namespace Warmup

variable {Kind : Type} {Val : Kind → Type} [DecidableEq Kind]

/-- Starts to load a span into the map of a name, which is set up for bulk loading if it does not
exist yet. -/
def openLoad (k : Kind) [Entity (Val k)] (g : Grid Kind Val) (store : RowStore (Val k))
    (span : Span) (mapName : String) (splits : Nat) :
    Except (OpenError Kind) (Handle k × LoadJob (Val k)) × Grid Kind Val :=
  let (_, g) := g.configure mapName .bulk
  match g.openMap mapName k with
  | (.error err, g) => (.error err, g)
  | (.ok h, g) =>
    let map := (g.map? h).getD ⟨mapName, .bulk, ∅⟩
    (.ok (h, .start map store mapName (span.split splits)), g)

def closeLoad {k : Kind} (g : Grid Kind Val) (span : Span) (h : Handle k) (l : LoadJob (Val k)) :
    LoadReport × Grid Kind Val × RowStore (Val k) :=
  (l.report span, g.updateMap h fun _ => l.tiers.map, l.tiers.store)

/-- Loads a span into a map, one part after the other. -/
def load (k : Kind) [Entity (Val k)] (weather : Weather (Val k)) (g : Grid Kind Val)
    (store : RowStore (Val k)) (span : Span) (mapName : String) (splits : Nat) :
    Except (OpenError Kind) LoadReport × Grid Kind Val × RowStore (Val k) :=
  match openLoad k g store span mapName splits with
  | (.error err, g) => (.error err, g, store)
  | (.ok (h, l), g) =>
    let (report, g, store) := closeLoad g span h (l.oneByOne weather)
    (.ok report, g, store)

end Warmup

end CacheAside
