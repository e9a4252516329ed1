import CacheAside.Text.Hex

set_option autoImplicit false

namespace CacheAside.Text

def uuidGroups : List Nat :=
  [8, 4, 4, 4, 12]

/-- The characters of groups of these sizes, without the hyphens between them. -/
def ungroup? : List Nat → List Char → Option (List Char)
  | [], cs => if cs.isEmpty then some [] else none
  | [n], cs => if cs.length = n then some cs else none
  | n :: ns, cs =>
    match cs.drop n with
    | '-' :: rest => (cs.take n ++ ·) <$> ungroup? ns rest
    | _ => none

def unbraced? : List Char → Option (List Char)
  | '\x7b' :: rest => if rest.getLast? = some '\x7d' then some rest.dropLast else none
  | _ => none

def uuidDigits? (cs : List Char) : Option (List Char) :=
  if cs.length = 32 then some cs
  else
    match unbraced? cs with
    | some inner => ungroup? uuidGroups inner
    | none =>
      if (cs.take 9).map Char.toLower = "urn:uuid:".toList then ungroup? uuidGroups (cs.drop 9)
      else ungroup? uuidGroups cs

def bytesOfUuid? (s : String) : Option (List UInt8) :=
  uuidDigits? s.toList >>= hexPairs?

end CacheAside.Text
