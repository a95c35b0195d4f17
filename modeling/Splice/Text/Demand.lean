import Splice.Text.Token

namespace Splice

/-- What a value that is read over still wants; the demands are a stack, the innermost first. -/
inductive Demand where
  | value
  | elementOrClose
  | afterElement
  | nameOrClose
  | name
  | colon
  | afterMember
  deriving DecidableEq

namespace Demand

/-- The demands after the first token of a value that `ds` come after. -/
def begin? (ds : List Demand) : Token → Option (List Demand)
  | .null | .bool _ | .number _ | .string _ => some ds
  | .openArray => some (.elementOrClose :: ds)
  | .openObject => some (.nameOrClose :: ds)
  | _ => none

def step? : List Demand → Token → Option (List Demand)
  | .value :: ds, t => begin? ds t
  | .elementOrClose :: ds, .closeArray => some ds
  | .elementOrClose :: ds, t => begin? (.afterElement :: ds) t
  | .afterElement :: ds, .comma => some (.value :: .afterElement :: ds)
  | .afterElement :: ds, .closeArray => some ds
  | .nameOrClose :: ds, .string _ => some (.colon :: ds)
  | .nameOrClose :: ds, .closeObject => some ds
  | .name :: ds, .string _ => some (.colon :: ds)
  | .colon :: ds, .colon => some (.value :: .afterMember :: ds)
  | .afterMember :: ds, .comma => some (.name :: ds)
  | .afterMember :: ds, .closeObject => some ds
  | _, _ => none

end Demand

end Splice
