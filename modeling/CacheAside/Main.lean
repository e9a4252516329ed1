import CacheAside.Json.Reader
import CacheAside.Warmup.Program

set_option autoImplicit false

namespace CacheAside

/-- The server whose one collection has these documents; it is down if one cannot be read. -/
def Server.ofLines (lines : List String) : Server :=
  match lines.mapM fun l => Json.parse? l >>= Document.ofCanonical? with
  | some documents => .up ⟨documents, 0⟩
  | none => .down

partial def readLines (input : IO.FS.Stream) (before : List String) : IO (List String) := do
  let line ← input.getLine
  if line.isEmpty then return before.reverse
  readLines input (if line.trimAscii.isEmpty then before else line :: before)

def readVariable (v : Variable) : IO EnvValue := do
  match ← IO.getEnv v.name with
  | some value => return .text value
  | none => return .unset

def readEnvironment : IO Environment := do
  let uri ← readVariable .uri
  let database ← readVariable .database
  let collection ← readVariable .collection
  let splits ← readVariable .splits
  let capacity ← readVariable .capacity
  let ttlSeconds ← readVariable .ttlSeconds
  return fun
    | .uri => uri
    | .database => database
    | .collection => collection
    | .splits => splits
    | .capacity => capacity
    | .ttlSeconds => ttlSeconds

end CacheAside

def main : IO UInt32 := do
  let env ← CacheAside.readEnvironment
  let lines ← CacheAside.readLines (← IO.getStdin) []
  let r := CacheAside.Warmup.program env (.ofLines lines)
  for line in r.lines do
    IO.println line
  match r.failure with
  | some f => IO.eprintln (CacheAside.Warmup.faultReport f.fault)
  | none => pure ()
  return UInt32.ofNat r.exitCode
