import CacheAside.Number.Shortest
import CacheAside.Table
/-!
JSON values. Integers and doubles are kept apart, and an object keeps the order in which its
fields were written; two objects are equal as values whatever that order is.
-/

set_option autoImplicit false

namespace CacheAside

inductive Json where
  | null
  | bool (value : Bool)
  | int (value : Int)
  | float (value : Binary64)
  | text (value : String)
  | list (items : List Json)
  | object (fields : List (String × Json))
  deriving Repr, Inhabited

namespace Json

mutual

/-- Equality as values: doubles by number, never equal to an integer; objects in any order. -/
def same : Json → Json → Bool
  | .null, .null => true
  | .bool a, .bool b => a == b
  | .int a, .int b => a == b
  | .float a, .float b => a.same b
  | .text a, .text b => a == b
  | .list as, .list bs => sameItems as bs
  | .object as, .object bs => as.length == bs.length && sameFields as bs
  | _, _ => false

def sameItems : List Json → List Json → Bool
  | [], [] => true
  | a :: as, b :: bs => same a b && sameItems as bs
  | _, _ => false

def sameFields : List (String × Json) → List (String × Json) → Bool
  | [], _ => true
  | (n, a) :: as, bs =>
    (match Table.lookup n bs with
      | some b => same a b
      | none => false) && sameFields as bs

end

/-- Fields in which each name occurs once: a repeated name keeps its first place and its last
value. -/
def mergeFields (fields : List (String × Json)) : List (String × Json) :=
  fields.foldl (fun done f => Table.put f.1 f.2 done) []

mutual

def merged : Json → Json
  | .list items => .list (mergedItems items)
  | .object fields => .object (mergeFields (mergedFields fields))
  | v => v

def mergedItems : List Json → List Json
  | [] => []
  | v :: rest => merged v :: mergedItems rest

def mergedFields : List (String × Json) → List (String × Json)
  | [] => []
  | (n, v) :: rest => (n, merged v) :: mergedFields rest

end

end Json

end CacheAside
