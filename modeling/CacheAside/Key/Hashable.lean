import CacheAside.Bytes

set_option autoImplicit false

namespace CacheAside

inductive Hashable where
  | word (width : Nat) (value : Int)
  | text (value : String)
  | bytes (value : Bytes)
  | list (items : List Hashable)
  | tuple (items : List Hashable)
  | none
  | some (item : Hashable)
  deriving Repr, Inhabited

namespace Hashable

/-- The bytes of a number in two's complement. -/
def wordBytes (width : Nat) (n : Int) : Bytes :=
  Bytes.littleEndian width (n % (Bytes.wordCount width : Nat)).toNat

mutual

def feed : Hashable → Bytes
  | .word width n => wordBytes width n
  | .text s => Bytes.ofText s ++ [0xff]
  | .bytes bs => Bytes.littleEndian 8 bs.length ++ bs
  | .list items => Bytes.littleEndian 8 items.length ++ feedAll items
  | .tuple items => feedAll items
  | .none => Bytes.littleEndian 8 0
  | .some item => Bytes.littleEndian 8 1 ++ feed item

def feedAll : List Hashable → Bytes
  | [] => []
  | v :: rest => feed v ++ feedAll rest

end

end Hashable

end CacheAside
