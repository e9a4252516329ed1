set_option autoImplicit false

namespace CacheAside

inductive UnsignedError where
  | empty
  | invalidDigit
  | tooLarge
  deriving DecidableEq, Repr

def UnsignedError.message : UnsignedError → String
  | .empty => "cannot parse integer from empty string"
  | .invalidDigit => "invalid digit found in string"
  | .tooLarge => "number too large to fit in target type"

namespace Unsigned

/-- Takes in digits from the left; of two errors the one further left counts. -/
def readDigits (bound : Nat) : Nat → List Char → Except UnsignedError Nat
  | n, [] => .ok n
  | n, c :: rest =>
    if c.isDigit then
      let m := 10 * n + (c.toNat - 0x30)
      if m < bound then readDigits bound m rest else .error .tooLarge
    else .error .invalidDigit

def read (bound : Nat) : List Char → Except UnsignedError Nat
  | [] => .error .empty
  | ['+'] => .error .invalidDigit
  | '+' :: rest => readDigits bound 0 rest
  | cs => readDigits bound 0 cs

end Unsigned

end CacheAside
