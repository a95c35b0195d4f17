import Splice.Expansion
import Splice.Template.Builder
import Splice.Text.Visible

namespace Splice

/-- Numbers in inspection texts: plain from `1e-4` up to `1e16`, whole ones with a fraction,
and negative zero with its sign. -/
def NumberStyle.inspection : NumberStyle where
  tie := .larger
  plainFrom := Binary64.ofFraction 1 10000
  plainBelow := Binary64.ofFraction 10000000000000000 1
  fraction := true
  exponentPlus := false
  signedZero := true
  notANumber := "NaN"
  infinite := "inf"

namespace Inspection

def sequence (items : List String) : String := "[" ++ ", ".intercalate items ++ "]"

def record (name : String) (fields : List (String × String)) : String :=
  name ++ " \x7b " ++ ", ".intercalate (fields.map fun f => f.1 ++ ": " ++ f.2) ++ " \x7d"

def texts (ss : List String) : String := sequence (ss.map Visible.encode)

def arityMismatch (e : Template.ArityMismatch) : String :=
  record "ArityMismatch" [("literals", toString e.literals), ("args", toString e.slots)]

variable {P : Type} (address : HandleId → String)

def handle (h : Handle P) : String :=
  match h.label with
  | some label => "Handle(" ++ label ++ " @ " ++ address h.id ++ ")"
  | none => "Handle(" ++ address h.id ++ ")"

def value : Value P → String
  | .null => "Null"
  | .bool b => "Bool(" ++ Value.boolText b ++ ")"
  | .number x => "Number(" ++ NumberStyle.inspection.render x ++ ")"
  | .string s => "Str(" ++ Visible.encode s ++ ")"
  | .handle h => "Ref(" ++ handle address h ++ ")"

def slot : Slot P → String
  | .value v => "Value(" ++ value address v ++ ")"
  | .item => "Item"

def slots (ss : List (Slot P)) : String := sequence (ss.map (slot address))

def template (t : Template P) : String :=
  record "Template" [("literals", texts t.literals), ("args", slots address t.slots)]

def builder (b : Builder P) : String :=
  record "TemplateBuilder"
    [("literals", texts (b.closed.toList.map Prod.fst)),
      ("args", slots address (b.closed.toList.map Prod.snd)),
      ("current", Visible.encode b.current)]

def config (c : Config) : String :=
  record "ProcessorConfig"
    [("lookup_var", Visible.encode c.lookupVar), ("key_prefix", Visible.encode c.keyPrefix),
      ("inline_primitives", Value.boolText c.inlinePrimitives)]

def processor (c : Config) : String := record "Processor" [("config", config c)]

def each (c : Config) (drivers : List (Value P)) : String :=
  record "Each"
    [("processor", processor c), ("drivers", sequence (drivers.map (value address)))]

def bindings (b : Bindings P) : String :=
  "\x7b" ++
    ", ".intercalate (b.toList.map fun e => Visible.encode e.1 ++ ": " ++ value address e.2) ++
    "\x7d"

def expansion (e : Expansion P) : String :=
  record "FunExp"
    [("source", Visible.encode e.source), ("bindings", bindings address e.bindings)]

def callable (_ : Callable) : String := "NativeFn(..)"

end Inspection

end Splice
