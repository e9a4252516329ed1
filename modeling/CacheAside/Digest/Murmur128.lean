import CacheAside.Bytes

set_option autoImplicit false

namespace CacheAside.Digest

def rotate64 (x k : UInt64) : UInt64 :=
  (x <<< k) ||| (x >>> (64 - k))

namespace Murmur128

structure State where
  low : UInt64
  high : UInt64
  deriving DecidableEq, Repr

def scrambleLow (k : UInt64) : UInt64 :=
  rotate64 (k * 0x87c37b91114253d5) 31 * 0x4cf5ad432745937f

def scrambleHigh (k : UInt64) : UInt64 :=
  rotate64 (k * 0x4cf5ad432745937f) 33 * 0x87c37b91114253d5

def State.absorb (s : State) (k l : UInt64) : State :=
  let low := (rotate64 (s.low ^^^ scrambleLow k) 27 + s.high) * 5 + 0x52dce729
  let high := (rotate64 (s.high ^^^ scrambleHigh l) 31 + low) * 5 + 0x38495ab5
  ⟨low, high⟩

def word (bs : Bytes) : UInt64 :=
  UInt64.ofNat (Bytes.ofLittleEndian bs)

/-- Folds the first `blocks` blocks, then the bytes left over, which need no final mixing. -/
def State.absorbAll (s : State) (bs : Bytes) : Nat → State
  | 0 => ⟨s.low ^^^ scrambleLow (word (bs.take 8)), s.high ^^^ scrambleHigh (word (bs.drop 8))⟩
  | blocks + 1 =>
    (s.absorb (word (bs.take 8)) (word ((bs.drop 8).take 8))).absorbAll (bs.drop 16) blocks

def avalanche (h : UInt64) : UInt64 :=
  let h := (h ^^^ (h >>> 33)) * 0xff51afd7ed558ccd
  let h := (h ^^^ (h >>> 33)) * 0xc4ceb9fe1a85ec53
  h ^^^ (h >>> 33)

end Murmur128

open Murmur128 in
def murmur128Low (bs : Bytes) : UInt64 :=
  let s := State.absorbAll ⟨0, 0⟩ bs (bs.length / 16)
  let n := UInt64.ofNat bs.length
  let low := s.low ^^^ n
  let high := s.high ^^^ n
  let sum := low + high
  avalanche sum + avalanche (high + sum)

end CacheAside.Digest
