import CacheAside.Document.Store
import CacheAside.Grid
import CacheAside.Record.Basic
import CacheAside.Settings
import CacheAside.Warmup.Load

set_option autoImplicit false

namespace CacheAside.Warmup

inductive Failure where
  | settings (error : SettingsError)
  | database (error : DocumentError)
  | incomplete (mapName : String) (failed total : Nat)
  deriving DecidableEq, Repr

def Failure.fault : Failure → Fault
  | .settings err => err.fault
  | .database err => err.fault
  | .incomplete mapName failed total =>
    .ofText ("warm-up of " ++ mapName ++ " incomplete: " ++ toString failed ++ " of "
      ++ toString total ++ " ranges failed")

structure Run where
  lines : List String
  failure : Option Failure

def Run.exitCode (r : Run) : Nat :=
  if r.failure.isSome then 1 else 0

/-- A fault as the program reports it: the outermost text, and below it its causes, which are
numbered if there are several. -/
def faultReport (f : Fault) : String :=
  let head := "Error: " ++ f.outermost
  match f.causes with
  | [] => head
  | [cause] => head ++ "\n\nCaused by:\n    " ++ cause
  | causes =>
    head ++ "\n\nCaused by:"
      ++ String.join (causes.mapIdx fun i c => "\n    " ++ toString i ++ ": " ++ c)

def loadRecords (store : DocumentStore Collection) (mapName : String) (part : Span)
    (map : EntryMap Record) : RangeOutcome × EntryMap Record :=
  let (loaded, map, _) := store.load part.start part.stop (gridConsumer fun _ => none) (map, 0)
  let ending := match loaded with
    | .ok n => Ending.value n
    | .error err => .error err.fault
  (.ofEnding ⟨part, mapName⟩ (some ending), map)

def loadParts (store : DocumentStore Collection) (mapName : String) :
    List Span → EntryMap Record → List RangeOutcome × EntryMap Record
  | [], map => ([], map)
  | part :: rest, map =>
    let (o, map) := loadRecords store mapName part map
    let (os, map) := loadParts store mapName rest map
    (o :: os, map)

/-- Loads every record of a store, but for one under the greatest token. -/
def loadAll (store : DocumentStore Collection) (splits : Nat) : LoadReport × EntryMap Record :=
  let name := Entity.mapName (Entity.kind Record)
  let (outcomes, map) := loadParts store name (Span.full.split splits) ⟨name, .bulk, ∅⟩
  (⟨name, outcomes, Span.full.excludesLast⟩, map)

def skipLine (mapName : String) : String :=
  "WARN Bulk load of " ++ mapName ++ " skips token " ++ Key.text ⟨Int64.maxValue⟩
    ++ "; those rows load on first read"

def failureLines (mapName : String) (o : RangeOutcome) : List String :=
  match o.result with
  | .ok _ => []
  | .error text =>
    ["WARN Bulk load of " ++ mapName ++ " " ++ o.span.text ++ " failed: " ++ text,
      "WARN Range " ++ o.span.text ++ " failed: " ++ text]

def conclude (r : LoadReport) : Run :=
  let lines := (if r.skippedLast then [skipLine r.mapName] else [])
    ++ r.outcomes.flatMap (failureLines r.mapName)
  if r.isComplete then
    ⟨lines ++ ["INFO Warm-up complete: " ++ toString r.loaded ++ " records, maps: "
      ++ Text.quotedList [r.mapName]], none⟩
  else ⟨lines, some (.incomplete r.mapName r.failures.length r.outcomes.length)⟩

/-- Runs the program against a server. -/
def program (env : Environment) (server : Server) : Run :=
  match Settings.read env with
  | .error err => ⟨[], some (.settings err)⟩
  | .ok settings =>
    match server.connect with
    | .error err => ⟨[], some (.database err)⟩
    | .ok collection => conclude (loadAll ⟨Record.keyFields, collection⟩ settings.splits).1

end CacheAside.Warmup
