import CacheAside.Key.Basic

set_option autoImplicit false

namespace CacheAside

/-- The tokens from `start` on and below `stop`. -/
structure Span where
  start : Int64
  stop : Int64
  start_le_stop : start ≤ stop
  deriving DecidableEq, Repr

namespace Span

def ofBounds? (start stop : Int64) : Option Span :=
  if h : start ≤ stop then some ⟨start, stop, h⟩ else none

/-- All tokens but the greatest, which no half-open span can hold. -/
def full : Span :=
  ⟨Int64.minValue, Int64.maxValue, by decide⟩

def length (s : Span) : Nat :=
  (s.stop.toInt - s.start.toInt).toNat

def isEmpty (s : Span) : Bool :=
  s.start == s.stop

def contains (s : Span) (token : Int64) : Bool :=
  s.start ≤ token && token < s.stop

/-- A span that runs to the top of the token space leaves out the greatest token alone. -/
def excludesLast (s : Span) : Bool :=
  s.stop == Int64.maxValue

def text (s : Span) : String :=
  "[" ++ Key.text ⟨s.start⟩ ++ ", " ++ Key.text ⟨s.stop⟩ ++ ")"

def between? (lo hi : Int) : Option Span :=
  ofBounds? (Int64.ofInt lo) (Int64.ofInt hi)

def cut (start : Int) (base extra i : Nat) : Int :=
  start + (i * base + min i extra : Nat)

def partCount (s : Span) (parts : Nat) : Nat :=
  min (max parts 1) s.length

/-- The parts of a span in token order. Lengths differ by at most one and the longer parts come
first; an empty span is its own only part. -/
def split (s : Span) (parts : Nat) : List Span :=
  if s.length = 0 then [s]
  else
    let m := s.partCount parts
    let at_ (i : Nat) := cut s.start.toInt (s.length / m) (s.length % m) i
    (List.range m).filterMap fun i => between? (at_ i) (at_ (i + 1))

end Span

end CacheAside
