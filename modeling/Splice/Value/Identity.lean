import Splice.Value

namespace Splice

inductive Identity where
  | null
  | bool (b : Bool)
  | number (x : Binary64)
  | string (s : String)
  | handle (id : HandleId)
  deriving DecidableEq, Hashable

def Value.identity {P : Type} : Value P → Identity
  | .null => .null
  | .bool b => .bool b
  | .number x => .number x.canonical
  | .string s => .string s
  | .handle h => .handle h.id

end Splice
