import Splice.Text.Quoted
import Splice.Value

namespace Splice

def quote (s : String) : String := .ofList (Quoted.encode s.toList)

def Value.literal? {P : Type} : Value P → Option String
  | .null => some "null"
  | .bool b => some (boolText b)
  | .number x => if x.isNaN then none else some x.text
  | .string s => some (quote s)
  | .handle _ => none

end Splice
