import CacheAside.Json.Reader

set_option autoImplicit false

namespace CacheAside.Json

def skipTextFrom : Nat → List Char → Option (List Char)
  | 0, _ => none
  | _ + 1, [] => none
  | _ + 1, '"' :: rest => some rest
  | fuel + 1, '\\' :: 'u' :: rest => do
    let (_, rest) ← readUnit rest
    skipTextFrom fuel rest
  | fuel + 1, '\\' :: rest => do
    let (_, rest) ← readEscape rest
    skipTextFrom fuel rest
  | fuel + 1, c :: rest => if c.toNat < 0x20 then none else skipTextFrom fuel rest

def skipText (cs : List Char) : Option (List Char) :=
  skipTextFrom (cs.length + 1) cs

def skipExponent : List Char → Option (List Char)
  | 'e' :: rest | 'E' :: rest => (readExponent rest).map (·.2)
  | rest => some rest

def skipNumeral (cs : List Char) : Option (List Char) :=
  let cs := match cs with
    | '-' :: rest => rest
    | rest => rest
  match spanDigits cs with
  | ([], _) => none
  | ('0' :: _ :: _, _) => none
  | (_, '.' :: rest) =>
    match spanDigits rest with
    | ([], _) => none
    | (_, rest) => skipExponent rest
  | (_, rest) => skipExponent rest

def skipName (cs : List Char) : Option (List Char) :=
  match skipBlanks cs with
  | '"' :: rest => do
    match skipBlanks (← skipText rest) with
    | ':' :: rest => some rest
    | _ => none
  | _ => none

mutual

def skipValue : Nat → List Char → Option (List Char)
  | 0, _ => none
  | fuel + 1, cs =>
    match skipBlanks cs with
    | '"' :: rest => skipText rest
    | '[' :: rest =>
      match skipBlanks rest with
      | ']' :: rest => some rest
      | rest => skipItems fuel rest
    | '\x7b' :: rest =>
      match skipBlanks rest with
      | '\x7d' :: rest => some rest
      | rest => skipFields fuel rest
    | 'n' :: rest => dropWord "ull".toList rest
    | 't' :: rest => dropWord "rue".toList rest
    | 'f' :: rest => dropWord "alse".toList rest
    | rest => skipNumeral rest

def skipItems : Nat → List Char → Option (List Char)
  | 0, _ => none
  | fuel + 1, cs => do
    match skipBlanks (← skipValue fuel cs) with
    | ']' :: rest => some rest
    | ',' :: rest => skipItems fuel rest
    | _ => none

def skipFields : Nat → List Char → Option (List Char)
  | 0, _ => none
  | fuel + 1, cs => do
    match skipBlanks (← skipValue fuel (← skipName cs)) with
    | '\x7d' :: rest => some rest
    | ',' :: rest => skipFields fuel rest
    | _ => none

end

/-- The text behind the value in front of it. -/
def skipFront (cs : List Char) : Option (List Char) :=
  skipValue (readFuel cs) cs

end CacheAside.Json
