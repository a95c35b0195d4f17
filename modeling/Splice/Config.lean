import Splice.Value.Literal

namespace Splice

structure Config where
  lookupVar : String := "ctx"
  /-- What every key begins with, before the number of its slot. -/
  keyPrefix : String := "$e_"
  inlinePrimitives : Bool := true
  deriving DecidableEq

namespace Config

def entryKey (c : Config) (slot : Nat) : String := c.keyPrefix ++ Nat.repr slot

inductive Field where
  | lookupVar
  | keyPrefix
  | inlinePrimitives
  deriving DecidableEq

def Field.name : Field → String
  | .lookupVar => "lookupVar"
  | .keyPrefix => "keyPrefix"
  | .inlinePrimitives => "inlinePrimitives"

def Field.all : List Field := [.lookupVar, .keyPrefix, .inlinePrimitives]

def Field.ofName? (name : String) : Option Field := Field.all.find? (·.name = name)

def fieldText (c : Config) : Field → String
  | .lookupVar => quote c.lookupVar
  | .keyPrefix => quote c.keyPrefix
  | .inlinePrimitives => Value.boolText c.inlinePrimitives

def json (c : Config) : String :=
  "\x7b" ++ ",".intercalate (Field.all.map fun f => quote f.name ++ ":" ++ c.fieldText f) ++ "\x7d"

end Config

end Splice
