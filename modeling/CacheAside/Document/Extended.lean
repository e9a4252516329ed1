import CacheAside.Document.Mark
import CacheAside.Json.Writer

set_option autoImplicit false

namespace CacheAside

inductive JsonForm where
  | canonical
  | plain
  deriving DecidableEq, Repr

namespace DocValue

def intText (n : Int) : Json :=
  .text (String.ofList (Json.intChars n))

def marked (mark : String) (body : Json) : Json :=
  .object [(mark, body)]

def markedId (i : ObjectId) : Json :=
  marked "$oid" (.text i.hex)

def markedBinary (kind : UInt8) (bs : Bytes) : Json :=
  marked "$binary" <| .object
    [("base64", .text (Text.base64OfBytes bs)), ("subType", .text (Text.hexOfBytes [kind]))]

def doubleText (x : Binary64) : String :=
  String.ofList <|
    if x.isFinite then x.plainChars
    else signed x.isNegative (if x.isNaN then "NaN".toList else "Infinity".toList)

/-- Nonzero doubles below the least with a full fraction are left unmarked. -/
def isSubnormal (x : Binary64) : Bool :=
  !x.isZero && x.magnitude < twoTo binary64.fractionBits

def doubleJson (x : Binary64) : JsonForm → Json
  | .canonical => if isSubnormal x then .float x else marked "$numberDouble" (.text (doubleText x))
  | .plain => if x.isFinite then .float x else .null

def intJson (mark : String) (n : Int) : JsonForm → Json
  | .canonical => marked mark (intText n)
  | .plain => .int n

def binaryJson (kind : UInt8) (bs : Bytes) : JsonForm → Json
  | .canonical => markedBinary kind bs
  | .plain => if kind = 0 then .list (bs.map fun b => .int b.toNat) else markedBinary kind bs

mutual

def json (form : JsonForm) : DocValue → Json
  | .double x => doubleJson x form
  | .text s => .text s
  | .document fields => .object (jsonFields form fields)
  | .array items => .list (jsonItems form items)
  | .binary kind bs => binaryJson kind bs form
  | .objectId i => markedId i
  | .bool b => .bool b
  | .date millis => marked "$date" (marked "$numberLong" (intText millis.toInt))
  | .null => .null
  | .int32 n => intJson "$numberInt" n.toInt form
  | .int64 n => intJson "$numberLong" n.toInt form
  | .decimal x => marked "$numberDecimal" (.text x.text)
  | .timestamp seconds counter =>
    marked "$timestamp" (.object [("t", .int seconds.toNat), ("i", .int counter.toNat)])
  | .regex pattern options =>
    marked "$regularExpression" (.object [("pattern", .text pattern), ("options", .text options)])
  | .symbol name => marked "$symbol" (.text name)
  | .code source => marked "$code" (.text source)
  | .scopedCode source scope =>
    .object [("$code", .text source), ("$scope", .object (jsonFields form scope))]
  | .pointer collection id =>
    marked "$dbPointer" (.object [("$ref", .text collection), ("$id", markedId id)])
  | .undefined => marked "$undefined" (.bool true)
  | .minKey => marked "$minKey" (.int 1)
  | .maxKey => marked "$maxKey" (.int 1)

def jsonItems (form : JsonForm) : List DocValue → List Json
  | [] => []
  | v :: rest => json form v :: jsonItems form rest

def jsonFields (form : JsonForm) : List (String × DocValue) → List (String × Json)
  | [] => []
  | (n, v) :: rest => (n, json form v) :: jsonFields form rest

end

def ofSmallInt (n : Int) : DocValue :=
  if -0x80000000 ≤ n ∧ n < 0x80000000 then .int32 (Int32.ofInt n) else .int64 (Int64.ofInt n)

def isMark (name : String) : Bool :=
  name ∈ "$code" :: Mark.single

def ofScoped? (source : Json) (scope? : Option (Option Document)) : Option DocValue :=
  match source, scope? with
  | .text s, some (some scope) => some (.scopedCode s scope)
  | .text s, some none => some (.code s)
  | _, _ => none

mutual

/-- Reads the canonical form, and plain numbers: integers in the narrower width that suffices, or
as doubles beyond the wider one. A marked field has to stand alone, but for the scope of code. -/
def ofCanonical? : Json → Option DocValue
  | .null => some .null
  | .bool b => some (.bool b)
  | .int n =>
    some (if n < 0x8000000000000000 then ofSmallInt n else .double (.ofNat n.toNat))
  | .float x => some (.double x)
  | .text s => some (.text s)
  | .list items => .array <$> ofCanonicalItems? items
  | .object [(name, v)] =>
    if name = "$code" then
      match v with
      | .text source => some (.code source)
      | _ => none
    else if name ∈ Mark.single then Mark.value? name v
    else do return .document [(name, ← ofCanonical? v)]
  | .object [(m, v), (n, w)] =>
    if m = "$code" ∧ n = "$scope" then ofScoped? v (ofScope? w)
    else if m = "$scope" ∧ n = "$code" then ofScoped? w (ofScope? v)
    else if isMark m || isMark n then none
    else do return .document [(m, ← ofCanonical? v), (n, ← ofCanonical? w)]
  | .object fields =>
    if fields.any fun f => isMark f.1 then none else .document <$> ofCanonicalFields? fields

def ofCanonicalItems? : List Json → Option (List DocValue)
  | [] => some []
  | v :: rest => do return (← ofCanonical? v) :: (← ofCanonicalItems? rest)

def ofCanonicalFields? : List (String × Json) → Option (List (String × DocValue))
  | [] => some []
  | (n, v) :: rest => do return (n, ← ofCanonical? v) :: (← ofCanonicalFields? rest)

/-- The fields of a scope, in which marks at the top are names like others; null is no scope. -/
def ofScope? : Json → Option (Option (List (String × DocValue)))
  | .null => some none
  | .object fields => some <$> ofCanonicalFields? fields
  | _ => none

end

end DocValue

namespace Document

def canonical (d : Document) : Json :=
  DocValue.json .canonical (.document d)

def plain (d : Document) : Json :=
  DocValue.json .plain (.document d)

def ofCanonical? : Json → Option Document
  | .object fields => DocValue.ofCanonicalFields? fields
  | _ => none

end Document

end CacheAside
