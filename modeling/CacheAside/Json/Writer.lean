import CacheAside.Json.Basic
import CacheAside.Text.Hex

set_option autoImplicit false

namespace CacheAside.Json

/-- Only quotes, backslashes and control characters are escaped. -/
def escapeChar (c : Char) : List Char :=
  if c = '"' then ['\\', '"']
  else if c = '\\' then ['\\', '\\']
  else if c = '\n' then ['\\', 'n']
  else if c = '\r' then ['\\', 'r']
  else if c = '\t' then ['\\', 't']
  else if c.toNat = 8 then ['\\', 'b']
  else if c.toNat = 12 then ['\\', 'f']
  else if c.toNat < 0x20 then
    ['\\', 'u', '0', '0', Text.hexDigit (c.toNat / 16), Text.hexDigit (c.toNat % 16)]
  else [c]

def textChars (s : String) : List Char :=
  '"' :: s.toList.flatMap escapeChar ++ ['"']

def intChars : Int → List Char
  | .ofNat n => decimalChars n
  | .negSucc n => '-' :: decimalChars (n + 1)

def commaSeparated : List (List Char) → List Char
  | [] => []
  | [x] => x
  | x :: y :: rest => x ++ ',' :: commaSeparated (y :: rest)

def fieldChars (f : String × List Char) : List Char :=
  textChars f.1 ++ ':' :: f.2

def insertField {α : Type} (f : String × α) : List (String × α) → List (String × α)
  | [] => [f]
  | g :: rest => if g.1 < f.1 then g :: insertField f rest else f :: g :: rest

def sortFields {α : Type} (fs : List (String × α)) : List (String × α) :=
  fs.foldr insertField []

mutual

def chars : Json → List Char
  | .null => "null".toList
  | .bool b => (if b then "true" else "false").toList
  | .int n => intChars n
  | .float x => x.chars
  | .text s => textChars s
  | .list items => '[' :: commaSeparated (itemTexts items) ++ [']']
  | .object fields => '{' :: commaSeparated ((fieldTexts fields).map fieldChars) ++ ['}']

def itemTexts : List Json → List (List Char)
  | [] => []
  | v :: rest => chars v :: itemTexts rest

def fieldTexts : List (String × Json) → List (String × List Char)
  | [] => []
  | (n, v) :: rest => (n, chars v) :: fieldTexts rest

end

mutual

def canonicalChars : Json → List Char
  | .list items => '[' :: commaSeparated (canonicalItems items) ++ [']']
  | .object fields =>
    '{' :: commaSeparated ((sortFields (canonicalFields fields)).map fieldChars) ++ ['}']
  | .null => "null".toList
  | .bool b => (if b then "true" else "false").toList
  | .int n => intChars n
  | .float x => x.chars
  | .text s => textChars s

def canonicalItems : List Json → List (List Char)
  | [] => []
  | v :: rest => canonicalChars v :: canonicalItems rest

def canonicalFields : List (String × Json) → List (String × List Char)
  | [] => []
  | (n, v) :: rest => (n, canonicalChars v) :: canonicalFields rest

end

def render (v : Json) : String :=
  String.ofList v.chars

/-- The text of a value, its fields sorted at every level. -/
def canonical (v : Json) : String :=
  String.ofList v.canonicalChars

theorem insertField_perm {α : Type} (f : String × α) (fs : List (String × α)) :
    (insertField f fs).Perm (f :: fs) := by
  induction fs with
  | nil => exact .refl _
  | cons g rest ih =>
    unfold insertField
    split
    · exact (ih.cons g).trans (.swap f g rest)
    · exact .refl _

theorem sortFields_perm {α : Type} (fs : List (String × α)) : (sortFields fs).Perm fs := by
  induction fs with
  | nil => exact .refl _
  | cons f rest ih => exact (insertField_perm f _).trans (ih.cons f)

end CacheAside.Json
