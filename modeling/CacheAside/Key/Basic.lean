import CacheAside.Digest.Murmur128
import CacheAside.Key.Part

set_option autoImplicit false

namespace CacheAside

structure Key where
  token : Int64
  deriving DecidableEq, Repr, Inhabited

namespace Key

/-- The key of a tuple: the low half of the digest of its encoding, as a signed number. -/
def derive (parts : List KeyPart) : Except KeyError Key := do
  let bs ← KeyPart.encodeTuple parts
  return ⟨(Digest.murmur128Low bs).toInt64⟩

def text (k : Key) : String :=
  String.ofList (Json.intChars k.token.toInt)

def le (a b : Key) : Bool :=
  a.token ≤ b.token

def insertSorted (k : Key) : List Key → List Key
  | [] => [k]
  | l :: rest => if k.le l then k :: l :: rest else l :: insertSorted k rest

def sort (ks : List Key) : List Key :=
  ks.foldr insertSorted []

/-- Tuples with one encoding have one key. -/
theorem derive_eq_of_encodeTuple_eq {as bs : List KeyPart}
    (h : KeyPart.encodeTuple as = KeyPart.encodeTuple bs) : derive as = derive bs := by
  simp [derive, h]

end Key

end CacheAside
