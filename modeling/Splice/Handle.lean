namespace Splice

structure HandleId where
  index : Nat
  deriving DecidableEq, Hashable

inductive Callable where
  | null
  | first
  | last
  | count
  | sum
  | concat
  deriving DecidableEq

/-- The payloads that a program runs with. -/
inductive Payload where
  | unit
  | int (n : Int)
  | bool (b : Bool)
  | string (s : String)
  | strings (ss : List String)
  | callable (f : Callable)
  deriving DecidableEq

namespace Payload

inductive Kind where
  | unit
  | int
  | bool
  | string
  | strings
  | callable
  deriving DecidableEq

def kind : Payload → Kind
  | .unit => .unit
  | .int _ => .int
  | .bool _ => .bool
  | .string _ => .string
  | .strings _ => .strings
  | .callable _ => .callable

end Payload

/-- A shared reference to what is not plain data. The payload is of any type; whether two handles are
the same is a matter of the allocation alone. -/
structure Handle (P : Type := Payload) where
  id : HandleId
  label : Option String
  payload : P
  deriving DecidableEq

namespace Handle

def shares {P : Type} (g h : Handle P) : Bool := decide (g.id = h.id)

def payload? (h : Handle) (kind : Payload.Kind) : Option Payload :=
  if h.payload.kind = kind then some h.payload else none

def callable? (h : Handle) : Option Callable :=
  match h.payload with
  | .callable f => some f
  | _ => none

structure Supply where
  next : Nat := 0

def Supply.fresh (s : Supply) : HandleId × Supply := (⟨s.next⟩, ⟨s.next + 1⟩)

end Handle

end Splice
