import CacheAside.Bytes

set_option autoImplicit false

namespace CacheAside.Digest

def rotate32 (x k : UInt32) : UInt32 :=
  (x <<< k) ||| (x >>> (32 - k))

namespace Murmur32

def scramble (k : UInt32) : UInt32 :=
  rotate32 (k * 0xcc9e2d51) 15 * 0x1b873593

def absorb (h k : UInt32) : UInt32 :=
  rotate32 (h ^^^ scramble k) 13 * 5 + 0xe6546b64

def word (bs : Bytes) : UInt32 :=
  UInt32.ofNat (Bytes.ofLittleEndian bs)

/-- Folds whole words; the one to three bytes left over are scrambled without the final mixing. -/
def body (h : UInt32) : Bytes → UInt32
  | a :: b :: c :: d :: rest => body (absorb h (word [a, b, c, d])) rest
  | tail => h ^^^ scramble (word tail)

def avalanche (h : UInt32) : UInt32 :=
  let h := (h ^^^ (h >>> 16)) * 0x85ebca6b
  let h := (h ^^^ (h >>> 13)) * 0xc2b2ae35
  h ^^^ (h >>> 16)

end Murmur32

def murmur32 (bs : Bytes) : UInt32 :=
  Murmur32.avalanche (Murmur32.body 0 bs ^^^ UInt32.ofNat bs.length)

end CacheAside.Digest
