import CacheAside.Json.Reader
/-!
Objects read field by field. Reading stops at the first thing that is wrong, so a repeated field is
reported before its value is looked at, even if nonsense follows. Where the names are known, an
array with a value for each of them, in their order, stands for the object.
-/

set_option autoImplicit false

namespace CacheAside

inductive ReadError where
  | malformed
  | duplicateField (name : String)
  | missingField (name : String)
  deriving DecidableEq, Repr

def ReadError.message? : ReadError → Option String
  | .malformed => none
  | .duplicateField name => some ("duplicate field " ++ "\x60" ++ name ++ "\x60")
  | .missingField name => some ("missing field " ++ "\x60" ++ name ++ "\x60")

/-- Takes a value from the front of a text and gives it with the text behind it. -/
abbrev Reader (α : Type) : Type :=
  List Char → Except ReadError (α × List Char)

namespace Reader

variable {α σ : Type}

def ofOption : Option α → Except ReadError α
  | some a => .ok a
  | none => .error .malformed

def required (name : String) : Option α → Except ReadError α
  | some a => .ok a
  | none => .error (.missingField name)

/-- One value, with at most `depth` brackets open at once. -/
def value (depth : Nat) (convert : Json → Option α) : Reader α := fun cs =>
  ofOption do
    let (v, rest) ← Json.readValue (Json.readFuel cs) (depth + 1) cs
    let a ← convert v
    return (a, rest)

def once (name : String) (slot : Option α) (read : Reader α) : Reader (Option α) := fun cs =>
  if slot.isSome then .error (.duplicateField name)
  else do
    let (a, rest) ← read cs
    return (some a, rest)

def items (read : Reader α) : Nat → Reader (List α)
  | 0, _ => .error .malformed
  | fuel + 1, cs => do
    let (a, rest) ← read cs
    match Json.skipBlanks rest with
    | ']' :: rest => return ([a], rest)
    | ',' :: rest => do
      let (as, rest) ← items read fuel rest
      return (a :: as, rest)
    | _ => .error .malformed

def array (read : Reader α) : Reader (List α) := fun cs =>
  match Json.skipBlanks cs with
  | ']' :: rest => .ok ([], rest)
  | rest => items read (rest.length + 1) rest

def fields (step : σ → String → Reader σ) : Nat → σ → Reader σ
  | 0, _, _ => .error .malformed
  | fuel + 1, s, cs => do
    let (name, rest) ← ofOption (Json.readName cs)
    let (s, rest) ← step s name rest
    match Json.skipBlanks rest with
    | '\x7d' :: rest => return (s, rest)
    | ',' :: rest => fields step fuel s rest
    | _ => .error .malformed

def object (step : σ → String → Reader σ) (start : σ) : Reader σ := fun cs =>
  match Json.skipBlanks cs with
  | '\x7d' :: rest => .ok (start, rest)
  | rest => fields step (rest.length + 1) start rest

def listed (step : σ → String → Reader σ) : List String → σ → Reader σ
  | [], _, _ => .error .malformed
  | name :: names, s, cs => do
    let (s, rest) ← step s name cs
    match names, Json.skipBlanks rest with
    | [], ']' :: rest => return (s, rest)
    | _ :: _, ',' :: rest => listed step names s rest
    | _, _ => .error .malformed

def named (names : List String) (step : σ → String → Reader σ) (start : σ) : Reader σ :=
  fun cs =>
    match Json.skipBlanks cs with
    | '\x7b' :: rest => object step start rest
    | '[' :: rest => listed step names start rest
    | _ => .error .malformed

end Reader

end CacheAside
