import CacheAside.Json.Reader
import CacheAside.Key.Basic

set_option autoImplicit false

namespace CacheAside.Key

def toJson (k : Key) : Json :=
  .int k.token.toInt

def ofJson? : Json → Option Key
  | .int n =>
    if -0x8000000000000000 ≤ n ∧ n < 0x8000000000000000 then some ⟨Int64.ofInt n⟩ else none
  | _ => none

def parse? (s : String) : Option Key :=
  Json.parse? s >>= ofJson?

end CacheAside.Key
