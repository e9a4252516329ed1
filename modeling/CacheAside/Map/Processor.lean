set_option autoImplicit false

namespace CacheAside

/-- A crash carries its text; otherwise the output comes with what becomes of the entry. -/
def Processor (V Out : Type) : Type :=
  Option V → Except String (Out × Option V)

namespace Processor

variable {V Out : Type}

def replace (v : V) : Processor V Bool :=
  fun _ => .ok (true, some v)

/-- Writes a value only where there is none, and reports whether it did. -/
def insertIfAbsent (v : V) : Processor V Bool
  | none => .ok (true, some v)
  | some old => .ok (false, some old)

def read : Processor V (Option V) :=
  fun entry => .ok (entry, entry)

def clear : Processor V (Option V) :=
  fun entry => .ok (entry, none)

def update (f : Option V → V) : Processor V (Option V) :=
  fun entry => .ok (entry, some (f entry))

def crash (text : String) : Processor V Out :=
  fun _ => .error text

def mapOut {Out' : Type} (f : Out → Out') (p : Processor V Out) : Processor V Out' :=
  fun entry => (p entry).map fun (o, left) => (f o, left)

end Processor

end CacheAside
