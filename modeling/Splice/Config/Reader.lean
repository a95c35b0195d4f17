import Splice.Config
import Splice.Text.Demand
import Splice.Text.Visible

namespace Splice

/-- Floating-point numbers in messages: plain from `1e-5` up to `1e16`, whole ones with a
fraction, ties to the even digit, exponents with their sign. -/
def NumberStyle.message : NumberStyle where
  tie := .even
  plainFrom := Binary64.ofFraction 1 100000
  plainBelow := Binary64.ofFraction 10000000000000000 1
  fraction := true
  exponentPlus := true
  signedZero := true
  notANumber := "NaN"
  infinite := "inf"

namespace Config

inductive Found where
  | null
  | bool (b : Bool)
  | integer (n : Int)
  | float (x : Binary64)
  | string (s : String)
  | array
  | object
  deriving DecidableEq

def Found.text : Found → String
  | .null => "null"
  | .bool b => "boolean `" ++ Value.boolText b ++ "`"
  | .integer n => "integer `" ++ toString n ++ "`"
  | .float x => "floating point `" ++ NumberStyle.message.render x ++ "`"
  | .string s => "string " ++ Visible.encode s
  | .array => "sequence"
  | .object => "map"

inductive Wanted where
  | string
  | boolean
  | config
  deriving DecidableEq

def Wanted.text : Wanted → String
  | .string => "a string"
  | .boolean => "a boolean"
  | .config => "struct ProcessorConfig"

inductive Problem where
  | malformed
  | mismatch (found : Found) (wanted : Wanted)
  | repeated (field : Field)
  deriving DecidableEq

def Problem.message? : Problem → Option String
  | .malformed => none
  | .mismatch found wanted =>
    some ("invalid type: " ++ found.text ++ ", expected " ++ wanted.text)
  | .repeated field => some ("duplicate field `" ++ field.name ++ "`")

/-- The problem of a token that does not begin what is wanted. An array or an object shows by its
bracket; a string or number has to be one. -/
def mismatch (wanted : Wanted) : Token → Problem
  | .null => .mismatch .null wanted
  | .bool b => .mismatch (.bool b) wanted
  | .number n =>
    match n.integer?, n.float? with
    | some i, _ => .mismatch (.integer i) wanted
    | none, some x => .mismatch (.float x) wanted
    | none, none => .malformed
  | .string (some s) => .mismatch (.string (.ofList s)) wanted
  | .openArray => .mismatch .array wanted
  | .openObject => .mismatch .object wanted
  | _ => .malformed

structure Given where
  lookupVar : Option String := none
  keyPrefix : Option String := none
  inlinePrimitives : Option Bool := none
  deriving DecidableEq

namespace Given

def has (g : Given) : Field → Bool
  | .lookupVar => g.lookupVar.isSome
  | .keyPrefix => g.keyPrefix.isSome
  | .inlinePrimitives => g.inlinePrimitives.isSome

def set (g : Given) : Field → Token → Except Problem Given
  | .lookupVar, .string (some s) => .ok { g with lookupVar := some (.ofList s) }
  | .keyPrefix, .string (some s) => .ok { g with keyPrefix := some (.ofList s) }
  | .inlinePrimitives, .bool b => .ok { g with inlinePrimitives := some b }
  | .inlinePrimitives, t => .error (mismatch .boolean t)
  | _, t => .error (mismatch .string t)

def config (g : Given) : Config where
  lookupVar := g.lookupVar.getD ({} : Config).lookupVar
  keyPrefix := g.keyPrefix.getD ({} : Config).keyPrefix
  inlinePrimitives := g.inlinePrimitives.getD ({} : Config).inlinePrimitives

end Given

inductive Place where
  | start
  | nameOrClose
  | name
  /-- After a name, which need not be one of a field. -/
  | colon (field : Option Field)
  | value (field : Field)
  | within (demands : List Demand)
  | afterMember
  | firstElement
  | element (field : Field) (later : List Field)
  | afterElement (later : List Field)
  | done
  deriving DecidableEq

structure Reading where
  given : Given := {}
  place : Place := .start
  deriving DecidableEq

namespace Reading

def moveTo (r : Reading) (place : Place) : Except Problem Reading := .ok { r with place }

def takeName (r : Reading) (name : List Char) : Except Problem Reading :=
  match Field.ofName? (.ofList name) with
  | some field => if r.given.has field then .error (.repeated field) else r.moveTo (.colon field)
  | none => r.moveTo (.colon none)

def takeValue (r : Reading) (field : Field) (t : Token) (place : Place) :
    Except Problem Reading :=
  (r.given.set field t).map fun given => { given, place }

def step (r : Reading) (t : Token) : Except Problem Reading :=
  match r.place, t with
  | .start, .openObject => r.moveTo .nameOrClose
  | .start, .openArray => r.moveTo .firstElement
  | .start, t => .error (mismatch .config t)
  | .nameOrClose, .closeObject => r.moveTo .done
  | .nameOrClose, .string (some name) => r.takeName name
  | .name, .string (some name) => r.takeName name
  | .colon (some field), .colon => r.moveTo (.value field)
  | .colon none, .colon => r.moveTo (.within [.value])
  | .value field, t => r.takeValue field t .afterMember
  | .within demands, t =>
    match Demand.step? demands t with
    | some [] => r.moveTo .afterMember
    | some demands => r.moveTo (.within demands)
    | none => .error .malformed
  | .afterMember, .comma => r.moveTo .name
  | .afterMember, .closeObject => r.moveTo .done
  | .firstElement, .closeArray => r.moveTo .done
  | .firstElement, t =>
    r.takeValue .lookupVar t (.afterElement [.keyPrefix, .inlinePrimitives])
  | .element field later, t => r.takeValue field t (.afterElement later)
  | .afterElement (field :: later), .comma => r.moveTo (.element field later)
  | .afterElement _, .closeArray => r.moveTo .done
  | _, _ => .error .malformed

def finish (r : Reading) : Except Problem Config :=
  match r.place with
  | .done => .ok r.given.config
  | _ => .error .malformed

end Reading

def ofTokens (ts : List Token) : Except Problem Config := do
  (← ts.foldlM Reading.step {}).finish

def ofText (text : String) : Except Problem Config := ofTokens (Token.ofText text.toList)

end Config

end Splice
