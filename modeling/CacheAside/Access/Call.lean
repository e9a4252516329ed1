import CacheAside.Fault

set_option autoImplicit false

namespace CacheAside

inductive CallPoint where
  | gridGet
  | gridSubmit
  | gridRemove
  | gridPut
  | storeFind
  | storeSave
  | storeRemove
  | storeLoad
  | listener
  deriving DecidableEq, Repr

def CallPoint.name : CallPoint → String
  | .gridGet => "grid.get"
  | .gridSubmit => "grid.submit"
  | .gridRemove => "grid.remove"
  | .gridPut => "grid.put"
  | .storeFind => "store.find"
  | .storeSave => "store.save"
  | .storeRemove => "store.remove"
  | .storeLoad => "store.load"
  | .listener => "listener"

/-- How a call is met. Only `serve` has the effect that was asked for: a call that fails or crashes
has none, a write that is refused is reported as not applied, and `answer` is what a read gives
whatever the tier holds. Where there is nothing to refuse or to answer the call is served. -/
inductive Conduct (E : Type) where
  | serve
  | fail (fault : Fault)
  | crash (text : String)
  | refuse
  | answer (found : Option E)

end CacheAside
