import Splice.Expansion

namespace Splice

inductive Failure where
  | root (text : String)
  | causedBy (text : String) (cause : Failure)
  deriving DecidableEq

namespace Failure

def text : Failure → String
  | .root text => text
  | .causedBy text _ => text

def chain : Failure → List String
  | .root text => [text]
  | .causedBy text cause => text :: cause.chain

def ofChain? : List String → Option Failure
  | [] => none
  | text :: texts =>
    match ofChain? texts with
    | some cause => some (.causedBy text cause)
    | none => some (.root text)

end Failure

/-- An evaluator takes parameters, a function body and the bindings for its first parameter. -/
abbrev Evaluator (α : Type) (P : Type := Payload) :=
  List String → String → Bindings P → Except Failure α

inductive CompileError where
  | shadowedLookupVar (name : String)
  | evaluator (failure : Failure)
  deriving DecidableEq

namespace CompileError

def message : CompileError → String
  | .shadowedLookupVar name => "parameter `" ++ name ++ "` shadows the lookup variable"
  | .evaluator failure => "evaluator rejected generated source: " ++ failure.text

def sources : CompileError → List String
  | .shadowedLookupVar _ => []
  | .evaluator failure => failure.chain

end CompileError

def Config.compile {α P : Type} (c : Config) (e : Expansion P) (params : List String)
    (evaluate : Evaluator α P) : Except CompileError α :=
  if c.lookupVar ∈ params then .error (.shadowedLookupVar c.lookupVar)
  else match evaluate (c.lookupVar :: params) e.source e.bindings with
    | .ok compiled => .ok compiled
    | .error failure => .error (.evaluator failure)

end Splice
