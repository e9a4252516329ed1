import CacheAside.Access.Work
/-!
One cache map over one store, with all the work in progress on them. Clients start operations;
each operation becomes work that goes on call by call, in any order with the work of others. What
a client sees at once is an error or the number of its work; the result is there when the work is
done.
-/

set_option autoImplicit false

namespace CacheAside

structure Client (L : Type) where
  listener : Option L
  meter : Nat

def Client.first {L : Type} : Client L :=
  ⟨none, 0⟩

def Client.second {L : Type} : Client L :=
  ⟨none, 1⟩

def Client.description {L : Type} (c : Client L) (kind mapName : String) : String :=
  "CacheableDataProvider \x7b entity: " ++ Text.quoted kind ++ ", map: " ++ Text.quoted mapName
    ++ ", has_listener: " ++ (if c.listener.isSome then "true" else "false") ++ " \x7d"

structure Task (E Out L : Type) where
  client : Client L
  progress : Progress E Out

namespace Task

variable {E Out L : Type}

def work? (t : Task E Out L) : Option (Work E Out) :=
  match t.progress with
  | .next w => some w
  | .done _ => none

def result? (t : Task E Out L) : Option (Result (Answer E Out)) :=
  match t.progress with
  | .next _ => none
  | .done r => some r

def isDone (t : Task E Out L) : Bool :=
  t.work?.isNone

end Task

structure Tiers (E Out L : Type) where
  map : EntryMap E
  store : RowStore E
  meters : List Meter
  tasks : List (Task E Out L)
  notices : List (Option L × Notice E)

/-- What a client may ask for. A refill puts an entity into the grid unless an entry is there. -/
inductive Request (E Out : Type) where
  | find (parts : List KeyPart)
  | save (entity : E)
  | remove (entity : E)
  | execute (entity : E) (processor : Processor E Out)
  | refill (key : Key) (entity : E)
  | load (span : Span)

/-- What may happen next: a request, the next call of a task, or that the grid loses an entry. -/
inductive Event (E Out L : Type) where
  | ask (client : Client L) (request : Request E Out)
  | call (task : Nat) (conduct : Conduct E)
  | lose (key : Key)

namespace Tiers

variable {E Out L : Type}

def create (map : EntryMap E) (store : RowStore E) : Tiers E Out L :=
  ⟨map, store, [], [], []⟩

def meter (s : Tiers E Out L) (i : Nat) : Meter :=
  s.meters.getD i .zero

def addMeter (s : Tiers E Out L) : Tiers E Out L :=
  { s with meters := s.meters ++ [.zero] }

/-- Counts signals; their durations are the host's matter. -/
def count (s : Tiers E Out L) (meter : Nat) (signals : List Signal) : Tiers E Out L :=
  { s with meters := s.meters.modify meter fun m => signals.foldl Meter.increment m }

def start (s : Tiers E Out L) (client : Client L) (w : Work E Out) : Tiers E Out L :=
  { s with tasks := s.tasks ++ [⟨client, .next w⟩] }

def isQuiet (s : Tiers E Out L) : Bool :=
  s.tasks.all (·.isDone)

def result? (s : Tiers E Out L) (task : Nat) : Option (Result (Answer E Out)) :=
  s.tasks[task]? >>= (·.result?)

/-- Derives a key, which is measured whether it succeeds or not. -/
def deriveKey [Entity E] (s : Tiers E Out L) (client : Client L) (parts : List KeyPart) :
    Result Key × Tiers E Out L :=
  let s := s.count client.meter [.createKey]
  match Key.derive parts with
  | .ok k => (.ok k, s)
  | .error err => (.error (.keyDerivation (Entity.kind E) err.message), s)

def resolveKey [Entity E] (s : Tiers E Out L) (client : Client L) (e : E) :
    Result Key × Tiers E Out L :=
  match Entity.stamped? e with
  | some k => (.ok k, s)
  | none => s.deriveKey client (Entity.parts e)

/-- Starts the work for a request. The key of the request is needed at once. -/
def ask [Entity E] (s : Tiers E Out L) (client : Client L) :
    Request E Out → Result Key × Tiers E Out L
  | .find parts =>
    match s.deriveKey client parts with
    | (.ok k, s) => (.ok k, s.start client (.readGrid k parts))
    | (.error err, s) => (.error err, s)
  | .save e =>
    match s.resolveKey client e with
    | (.ok k, s) => (.ok k, s.start client (.saveGrid k (Entity.stamp k e)))
    | (.error err, s) => (.error err, s)
  | .remove e =>
    match s.resolveKey client e with
    | (.ok k, s) => (.ok k, s.start client (.removeGrid k e))
    | (.error err, s) => (.error err, s)
  | .execute e p =>
    match s.resolveKey client e with
    | (.ok k, s) => (.ok k, s.start client (.execute k p))
    | (.error err, s) => (.error err, s)
  | .refill k e => (.ok k, s.start client (.refill k e))
  | .load span => (.ok ⟨span.start⟩, s.start client (.scan span))

def apply (s : Tiers E Out L) (number : Nat) (client : Client L) (m : Move E Out) :
    Tiers E Out L :=
  let s := s.count client.meter m.signals
  { s with
    map := m.map
    store := m.store
    tasks := s.tasks.set number ⟨client, m.progress⟩ ++ m.spawned.map fun w => ⟨client, .next w⟩
    notices := s.notices ++ m.heard.toList.map fun n => (client.listener, n) }

def call [Entity E] (s : Tiers E Out L) (number : Nat) (conduct : Conduct E) : Tiers E Out L :=
  match s.tasks[number]? with
  | none => s
  | some t =>
    match t.progress with
    | .done _ => s
    | .next w =>
      s.apply number t.client
        (w.advance number t.client.listener.isSome s.map s.store conduct)

def step [Entity E] (s : Tiers E Out L) : Event E Out L → Tiers E Out L
  | .ask client request => (s.ask client request).2
  | .call number conduct => s.call number conduct
  | .lose k => { s with map := s.map.lose k }

def run [Entity E] (s : Tiers E Out L) (events : List (Event E Out L)) : Tiers E Out L :=
  events.foldl step s

theorem run_append [Entity E] (s : Tiers E Out L) (as bs : List (Event E Out L)) :
    s.run (as ++ bs) = (s.run as).run bs :=
  List.foldl_append

end Tiers

end CacheAside
