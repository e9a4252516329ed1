import CacheAside.Access.Tiers
/-!
Running a system one call at a time until nothing can go on, while chosen calls are held back and
chosen call points misbehave. Calls are noted when they are made; a held call is met only once it
is released, and then by whatever its call point does at that time.
-/

set_option autoImplicit false

namespace CacheAside

inductive Mode where
  | fail
  | failChain
  | crash
  | refuse
  deriving DecidableEq, Repr

def Mode.conduct {E : Type} (p : CallPoint) : Mode → Conduct E
  | .fail => .fail (Fault.ofText (p.name ++ " failed"))
  | .failChain => .fail ((Fault.ofText "socket closed").within (p.name ++ " failed"))
  | .crash => .crash (p.name ++ " crashed")
  | .refuse => .refuse

inductive Noted (E L : Type) where
  | call (point : CallPoint)
  | notice (listener : Option L) (notice : Notice E)

/-- A system with the calls it holds, the oldest first, and the handles of its clients. A point is
armed for the next call there alone, and a handle is empty once it has given its result. -/
structure Schedule (E Out L : Type) where
  system : Tiers E Out L
  modes : Table CallPoint Mode
  armed : List CallPoint
  held : List Nat
  noted : List (Noted E L)
  handles : List (Option Nat)

namespace Schedule

variable {E Out L : Type}

def create (system : Tiers E Out L) : Schedule E Out L :=
  ⟨system, ∅, [], [], [], []⟩

def pointOf (s : Schedule E Out L) (task : Nat) : Option CallPoint :=
  s.system.tasks[task]? >>= (·.work?) |>.map Work.point

def conductAt (s : Schedule E Out L) (p : CallPoint) : Conduct E :=
  match s.modes.get? p with
  | some m => m.conduct p
  | none => .serve

variable [Entity E]

def meet (s : Schedule E Out L) (task : Nat) (p : CallPoint) : Schedule E Out L :=
  let before := s.system.notices.length
  let system := s.system.call task (s.conductAt p)
  { s with
    system
    noted := s.noted ++ (system.notices.drop before).map fun (l, n) => .notice l n }

/-- Makes the call of a task: it is noted, and then held or met. -/
def makeCall (s : Schedule E Out L) (task : Nat) (p : CallPoint) : Schedule E Out L :=
  let s := if p = .listener then s else { s with noted := s.noted ++ [.call p] }
  if p ∈ s.armed then { s with armed := s.armed.erase p, held := s.held ++ [task] }
  else s.meet task p

/-- The first task that is neither done nor held, and its call point. -/
def ready? (s : Schedule E Out L) : Option (Nat × CallPoint) :=
  (List.range s.system.tasks.length).findSome? fun i =>
    if i ∈ s.held then none else (s.pointOf i).map (i, ·)

def settleFor : Nat → Schedule E Out L → Schedule E Out L
  | 0, s => s
  | fuel + 1, s =>
    match s.ready? with
    | none => s
    | some (i, p) => settleFor fuel (s.makeCall i p)

/-- Makes calls until no task can go on. A task and what it starts make at most three calls, or a
load two and one for each row; besides, each point is armed for one call only. -/
def settle (s : Schedule E Out L) : Schedule E Out L :=
  let n := s.system.tasks.length
  settleFor (n * (s.system.store.size + n + 2) + s.armed.length) s

def ask (s : Schedule E Out L) (client : Client L) (request : Request E Out) :
    Result Nat × Schedule E Out L :=
  let number := s.system.tasks.length
  match s.system.ask client request with
  | (.error err, system) => (.error err, { s with system })
  | (.ok _, system) => (.ok number, settle { s with system })

def release (s : Schedule E Out L) (p : CallPoint) : Bool × Schedule E Out L :=
  match s.held.find? fun i => s.pointOf i = some p with
  | none => (false, s)
  | some i => (true, (({ s with held := s.held.erase i } : Schedule E Out L).meet i p).settle)

omit [Entity E] in
/-- Holds the next call at a point; false if the next call there was to be held already. -/
def hold (s : Schedule E Out L) (p : CallPoint) : Bool × Schedule E Out L :=
  if p ∈ s.armed then (false, s) else (true, { s with armed := p :: s.armed })

omit [Entity E] in
def setMode (s : Schedule E Out L) (p : CallPoint) (m : Option Mode) : Schedule E Out L :=
  { s with modes := s.modes.set p m }

omit [Entity E] in
def await (s : Schedule E Out L) (task : Nat) :
    (Result (Answer E Out) ⊕ Nat) × Schedule E Out L :=
  match s.system.result? task with
  | some r => (.inl r, s)
  | none => (.inr s.handles.length, { s with handles := s.handles ++ [some task] })

omit [Entity E] in
def poll (s : Schedule E Out L) (handle : Nat) :
    Polled (Answer E Out) × Schedule E Out L :=
  match s.handles[handle]? with
  | some (some task) =>
    match s.system.result? task with
    | some r => (.ready r, { s with handles := s.handles.set handle none })
    | none => (.waiting, s)
  | _ => (.gone, s)

omit [Entity E] in
def forget (s : Schedule E Out L) (handle : Nat) : Bool × Schedule E Out L :=
  ((s.handles[handle]?.bind id).isSome, { s with handles := s.handles.set handle none })

omit [Entity E] in
def takeNoted (s : Schedule E Out L) : List (Noted E L) × Schedule E Out L :=
  (s.noted, { s with noted := [] })

end Schedule

end CacheAside
