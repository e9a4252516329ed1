import CacheAside.Json.Numeral
import CacheAside.Text.Hex
/-!
Reading JSON text. Readers take the characters ahead and give what they read with what is left;
a text is accepted if nothing but blanks is left. Arrays and objects nest at most 127 deep. What
is read keeps the fields of an object as they were written, repeated ones included; `Json.parse?`
merges them.
-/

set_option autoImplicit false

namespace CacheAside.Json

def isBlank (c : Char) : Bool :=
  c = ' ' || c = '\n' || c = '\t' || c = '\r'

def skipBlanks (cs : List Char) : List Char :=
  cs.dropWhile isBlank

def readUnit : List Char → Option (Nat × List Char)
  | a :: b :: c :: d :: rest => (·, rest) <$> Text.hexValue? [a, b, c, d]
  | _ => none

def readEscapedUnit (cs : List Char) : Option (Char × List Char) := do
  let (hi, rest) ← readUnit cs
  if 0xdc00 ≤ hi ∧ hi ≤ 0xdfff then none
  else if 0xd800 ≤ hi ∧ hi ≤ 0xdbff then
    match rest with
    | '\\' :: 'u' :: rest => do
      let (lo, rest) ← readUnit rest
      if 0xdc00 ≤ lo ∧ lo ≤ 0xdfff then
        return (Char.ofNat (0x10000 + (hi - 0xd800) * 0x400 + (lo - 0xdc00)), rest)
      else none
    | _ => none
  else return (Char.ofNat hi, rest)

def readEscape : List Char → Option (Char × List Char)
  | '"' :: rest => some ('"', rest)
  | '\\' :: rest => some ('\\', rest)
  | '/' :: rest => some ('/', rest)
  | 'b' :: rest => some ('\x08', rest)
  | 'f' :: rest => some ('\x0c', rest)
  | 'n' :: rest => some ('\n', rest)
  | 'r' :: rest => some ('\r', rest)
  | 't' :: rest => some ('\t', rest)
  | 'u' :: rest => readEscapedUnit rest
  | _ => none

/-- The characters up to the closing quote; `fuel` bounds their number. -/
def readTextFrom : Nat → List Char → Option (List Char × List Char)
  | 0, _ => none
  | _ + 1, [] => none
  | _ + 1, '"' :: rest => some ([], rest)
  | fuel + 1, '\\' :: rest => do
    let (c, rest) ← readEscape rest
    let (cs, rest) ← readTextFrom fuel rest
    return (c :: cs, rest)
  | fuel + 1, c :: rest =>
    if c.toNat < 0x20 then none
    else do
      let (cs, rest) ← readTextFrom fuel rest
      return (c :: cs, rest)

def readText (cs : List Char) : Option (String × List Char) := do
  let (t, rest) ← readTextFrom (cs.length + 1) cs
  return (String.ofList t, rest)

def dropWord : List Char → List Char → Option (List Char)
  | [], cs => some cs
  | w :: ws, c :: cs => if w = c then dropWord ws cs else none
  | _ :: _, [] => none

def readName (cs : List Char) : Option (String × List Char) :=
  match skipBlanks cs with
  | '"' :: rest => do
    let (name, rest) ← readText rest
    match skipBlanks rest with
    | ':' :: rest => return (name, rest)
    | _ => none
  | _ => none

mutual

/-- One value; `depth` counts the brackets that may still be opened. -/
def readValue : Nat → Nat → List Char → Option (Json × List Char)
  | 0, _, _ => none
  | fuel + 1, depth, cs =>
    match skipBlanks cs with
    | '"' :: rest => do
      let (t, rest) ← readText rest
      return (.text t, rest)
    | '[' :: rest =>
      if depth ≤ 1 then none
      else match skipBlanks rest with
        | ']' :: rest => some (.list [], rest)
        | rest => do
          let (vs, rest) ← readItems fuel (depth - 1) rest
          return (.list vs, rest)
    | '\x7b' :: rest =>
      if depth ≤ 1 then none
      else match skipBlanks rest with
        | '\x7d' :: rest => some (.object [], rest)
        | rest => do
          let (fs, rest) ← readFields fuel (depth - 1) rest
          return (.object fs, rest)
    | 'n' :: rest => (.null, ·) <$> dropWord "ull".toList rest
    | 't' :: rest => (.bool true, ·) <$> dropWord "rue".toList rest
    | 'f' :: rest => (.bool false, ·) <$> dropWord "alse".toList rest
    | rest => readNumeral rest

def readItems : Nat → Nat → List Char → Option (List Json × List Char)
  | 0, _, _ => none
  | fuel + 1, depth, cs => do
    let (v, rest) ← readValue fuel depth cs
    match skipBlanks rest with
    | ']' :: rest => return ([v], rest)
    | ',' :: rest => do
      let (vs, rest) ← readItems fuel depth rest
      return (v :: vs, rest)
    | _ => none

def readFields : Nat → Nat → List Char → Option (List (String × Json) × List Char)
  | 0, _, _ => none
  | fuel + 1, depth, cs => do
    let (name, rest) ← readName cs
    let (v, rest) ← readValue fuel depth rest
    match skipBlanks rest with
    | '\x7d' :: rest => return ([(name, v)], rest)
    | ',' :: rest => do
      let (fs, rest) ← readFields fuel depth rest
      return ((name, v) :: fs, rest)
    | _ => none

end

/-- Brackets that a whole text may open inside each other, and one more. -/
def depthLimit : Nat := 128

def readFuel (cs : List Char) : Nat :=
  2 * cs.length + 2

def readFront (open_ : Nat) (cs : List Char) : Option (Json × List Char) :=
  readValue (readFuel cs) (depthLimit - open_) cs

def parse? (s : String) : Option Json := do
  let (v, rest) ← readFront 0 s.toList
  if (skipBlanks rest).isEmpty then some v.merged else none

end CacheAside.Json
