import CacheAside.Bytes
import CacheAside.Json.Writer

set_option autoImplicit false

namespace CacheAside

/-- A value described call by call, richer than JSON: maps may have keys of any kind, and
alternatives carry their name. -/
inductive Serial where
  | unit
  | bool (value : Bool)
  | int (value : Int)
  | single (value : Binary32)
  | double (value : Binary64)
  | char (value : Char)
  | text (value : String)
  | bytes (value : Bytes)
  | wrapped (value : Serial)
  | list (items : List Serial)
  | map (entries : List (Serial × Serial))
  | record (fields : List (String × Serial))
  | named (name : String)
  | namedValue (name : String) (value : Serial)
  | namedList (name : String) (items : List Serial)
  | namedRecord (name : String) (fields : List (String × Serial))
  | refusal (message : String)
  deriving Repr, Inhabited

inductive SerialError where
  | numberOutOfRange
  | keyNotText
  | keyNotFinite
  | refused (message : String)
  deriving DecidableEq, Repr

def SerialError.message : SerialError → String
  | .numberOutOfRange => "number out of range"
  | .keyNotText => "key must be a string"
  | .keyNotFinite => "float key must be finite (got NaN or +/-inf)"
  | .refused message => message

namespace Serial

def fitsWord (n : Int) : Bool :=
  -0x8000000000000000 ≤ n && n < 0x10000000000000000

def finiteFloat (x : Binary64) : Json :=
  if x.isFinite then .float x else .null

def keyText : Serial → Except SerialError String
  | .text s | .named s => .ok s
  | .char c => .ok (String.singleton c)
  | .bool b => .ok (if b then "true" else "false")
  | .int n => .ok (String.ofList (Json.intChars n))
  | .single x => if x.isFinite then .ok (String.ofList x.chars) else .error .keyNotFinite
  | .double x => if x.isFinite then .ok (String.ofList x.chars) else .error .keyNotFinite
  | .refusal message => .error (.refused message)
  | _ => .error .keyNotText

mutual

def toJson : Serial → Except SerialError Json
  | .unit => .ok .null
  | .bool b => .ok (.bool b)
  | .int n => if fitsWord n then .ok (.int n) else .error .numberOutOfRange
  | .single x => .ok (finiteFloat x.widen)
  | .double x => .ok (finiteFloat x)
  | .char c => .ok (.text (String.singleton c))
  | .text s | .named s => .ok (.text s)
  | .bytes bs => .ok (.list (bs.map fun b => .int b.toNat))
  | .wrapped v => toJson v
  | .list items => do return .list (← itemsToJson items)
  | .map entries => do return .object (← entriesToJson [] entries)
  | .record fields => do return .object (← fieldsToJson [] fields)
  | .namedValue name v => do return .object [(name, ← toJson v)]
  | .namedList name items => do return .object [(name, .list (← itemsToJson items))]
  | .namedRecord name fields => do return .object [(name, .object (← fieldsToJson [] fields))]
  | .refusal message => .error (.refused message)

def itemsToJson : List Serial → Except SerialError (List Json)
  | [] => .ok []
  | v :: rest => do
    let x ← toJson v
    let xs ← itemsToJson rest
    return x :: xs

def entriesToJson (done : List (String × Json)) :
    List (Serial × Serial) → Except SerialError (List (String × Json))
  | [] => .ok done
  | (k, v) :: rest => do
    let name ← keyText k
    let x ← toJson v
    entriesToJson (Table.put name x done) rest

def fieldsToJson (done : List (String × Json)) :
    List (String × Serial) → Except SerialError (List (String × Json))
  | [] => .ok done
  | (name, v) :: rest => do
    let x ← toJson v
    fieldsToJson (Table.put name x done) rest

end

end Serial

end CacheAside
