import CacheAside.Map.Policy
import CacheAside.Number.Shortest
import CacheAside.Table
/-!
Meters: for each signal a count of its occurrences and the sum of their durations, both kept
to 64 bits. Registries are names of meters, so that a clone of a registry shares its meter, and a
timer belongs to one meter. A timer that is stopped is dropped as well; its flag keeps it from
recording twice.
-/

set_option autoImplicit false

namespace CacheAside

inductive Signal where
  | find
  | save
  | remove
  | createKey
  | hit
  | gridGet
  | putAsync
  deriving DecidableEq, Repr

namespace Signal

def all : List Signal :=
  [.find, .save, .remove, .createKey, .hit, .gridGet, .putAsync]

def name : Signal → String
  | .find => "find"
  | .save => "save"
  | .remove => "remove"
  | .createKey => "create_key"
  | .hit => "hits"
  | .gridGet => "grid_get"
  | .putAsync => "put_async"

def title : Signal → String
  | .find => "Find"
  | .save => "Save"
  | .remove => "Remove"
  | .createKey => "CreateKey"
  | .hit => "Hits"
  | .gridGet => "GridGet"
  | .putAsync => "PutAsync"

end Signal

namespace Nanos

def limit : Nanos :=
  0x10000000000000000 * nanosPerSecond

/-- A duration divided in words of the machine: first its seconds, then its nanoseconds, and then
what is left of both. -/
def dividedBy (d : Nanos) (n : UInt32) : Nanos :=
  let seconds := UInt64.ofNat (d / nanosPerSecond)
  let nanos := UInt32.ofNat (d % nanosPerSecond)
  let left := seconds % n.toUInt64 * 1000000000 + (nanos % n).toUInt64
  (seconds / n.toUInt64).toNat * nanosPerSecond
    + (nanos / n + (left / n.toUInt64).toUInt32).toNat

def decimal (n places : Nat) : String :=
  let unit := tenTo places
  let digits := decimalChars (n % unit)
  let fraction := List.replicate (places - digits.length) '0' ++ digits
  let kept := (fraction.reverse.dropWhile (· == '0')).reverse
  toString (n / unit) ++ String.ofList (if n % unit = 0 then [] else '.' :: kept)

def text (n : Nanos) : String :=
  if 1000000000 ≤ n then decimal n 9 ++ "s"
  else if 1000000 ≤ n then decimal n 6 ++ "ms"
  else if 1000 ≤ n then decimal n 3 ++ "µs"
  else decimal n 0 ++ "ns"

end Nanos

structure Stat where
  count : UInt64
  total : Nanos
  deriving DecidableEq, Repr

namespace Stat

def isDefault (s : Stat) : Bool :=
  s = ⟨0, 0⟩

/-- The mean duration, rounded down; none without occurrences. The division is by the low half of
the count, and crashes where that is zero. -/
def mean (s : Stat) : Except String (Option Nanos) :=
  if s.count = 0 then .ok none
  else if s.count.toUInt32 = 0 then
    .error "divide by zero error when dividing duration by scalar"
  else .ok (some (s.total.dividedBy s.count.toUInt32))

end Stat

structure Meter where
  count : Signal → UInt64
  total : Signal → UInt64

namespace Meter

def zero : Meter :=
  ⟨fun _ => 0, fun _ => 0⟩

instance : Inhabited Meter := ⟨zero⟩

def increment (m : Meter) (s : Signal) : Meter :=
  { m with count := fun t => if t = s then m.count t + 1 else m.count t }

/-- The nanoseconds that are added for a duration. -/
def capped (elapsed : Nanos) : UInt64 :=
  UInt64.ofNat (min elapsed 0xffffffffffffffff)

def record (m : Meter) (s : Signal) (elapsed : Nanos) : Meter :=
  { m.increment s with
    total := fun t => if t = s then m.total t + capped elapsed else m.total t }

def stat (m : Meter) (s : Signal) : Stat :=
  ⟨m.count s, (m.total s).toNat⟩

def snapshot (m : Meter) : List (Signal × Stat) :=
  Signal.all.map fun s => (s, m.stat s)

def statDescription (entry : Signal × Stat) : String :=
  entry.1.title ++ ": MetricStat \x7b count: " ++ toString entry.2.count.toNat ++ ", total: "
    ++ entry.2.total.text ++ " \x7d"

def description (m : Meter) : String :=
  "ProviderMetrics \x7b snapshot: MetricsSnapshot \x7b entries: \x7b"
    ++ ", ".intercalate (m.snapshot.map statDescription) ++ "\x7d \x7d \x7d"

@[simp] theorem count_increment (m : Meter) (s t : Signal) :
    (m.increment s).count t = if t = s then m.count t + 1 else m.count t := rfl

@[simp] theorem count_record (m : Meter) (s t : Signal) (d : Nanos) :
    (m.record s d).count t = if t = s then m.count t + 1 else m.count t := rfl

@[simp] theorem total_record (m : Meter) (s t : Signal) (d : Nanos) :
    (m.record s d).total t = if t = s then m.total t + capped d else m.total t := rfl

end Meter

structure Timer where
  meter : Nat
  signal : Signal
  stopped : Bool
  deriving DecidableEq, Repr

structure MeterBook where
  meters : List Meter
  registries : List Nat
  timers : Table String Timer

/-- What is done next. An earlier timer of a name that `start` gives again has run for `replaced`,
and one that `stop` ends after `elapsed` is dropped when it has run for `later`. -/
inductive MeterStep where
  | increment (registry : Nat) (signal : Signal)
  | record (registry : Nat) (signal : Signal) (elapsed : Nanos)
  | start (registry : Nat) (name : String) (signal : Signal) (replaced : Nanos)
  | stop (name : String) (elapsed later : Nanos)
  | finish (name : String) (elapsed : Nanos)
  | clone (registry : Nat)
  | fresh
  | snapshot (registry : Nat)
  deriving DecidableEq, Repr

namespace MeterBook

def initial : MeterBook :=
  ⟨[.zero], [0], ∅⟩

def meterOf (b : MeterBook) (registry : Nat) : Nat :=
  b.registries.getD registry 0

def meter (b : MeterBook) (registry : Nat) : Meter :=
  b.meters.getD (b.meterOf registry) .zero

def modifyMeter (b : MeterBook) (i : Nat) (f : Meter → Meter) : MeterBook :=
  { b with meters := b.meters.modify i f }

/-- Records a timer's duration with its meter, unless the timer has been stopped before. -/
def recordOnce (b : MeterBook) (name : String) (elapsed : Nanos) : MeterBook :=
  match b.timers.get? name with
  | none => b
  | some t =>
    if t.stopped then b
    else
      { b.modifyMeter t.meter (·.record t.signal elapsed) with
        timers := b.timers.insert name { t with stopped := true } }

def finish (b : MeterBook) (name : String) (elapsed : Nanos) : MeterBook :=
  let b := b.recordOnce name elapsed
  { b with timers := b.timers.erase name }

def step (b : MeterBook) : MeterStep → MeterBook
  | .increment r s => b.modifyMeter (b.meterOf r) (·.increment s)
  | .record r s d => b.modifyMeter (b.meterOf r) (·.record s d)
  | .start r name s replaced =>
    let b := b.finish name replaced
    { b with timers := b.timers.insert name ⟨b.meterOf r, s, false⟩ }
  | .stop name elapsed later => (b.recordOnce name elapsed).finish name later
  | .finish name elapsed => b.finish name elapsed
  | .clone r => { b with registries := b.registries ++ [b.meterOf r] }
  | .fresh =>
    { b with meters := b.meters ++ [.zero], registries := b.registries ++ [b.meters.length] }
  | .snapshot _ => b

def run (b : MeterBook) (steps : List MeterStep) : MeterBook :=
  steps.foldl step b

end MeterBook

end CacheAside
