import Splice.Handle
import Splice.NumberStyle

namespace Splice

inductive Value (P : Type := Payload) where
  | null
  | bool (b : Bool)
  | number (x : Binary64)
  | string (s : String)
  | handle (h : Handle P)
  deriving DecidableEq

variable {P : Type}

namespace Value

def ofInt (n : Int) : Value P := .number (.ofInt n)

def ofOption : Option (Value P) → Value P
  | none => .null
  | some v => v

def isPrimitive : Value P → Bool
  | .handle _ => false
  | _ => true

def string? : Value P → Option String
  | .string s => some s
  | _ => none

def number? : Value P → Option Binary64
  | .number x => some x
  | _ => none

def handle? : Value P → Option (Handle P)
  | .handle h => some h
  | _ => none

def equals : Value P → Value P → Bool
  | .null, .null => true
  | .bool a, .bool b => a == b
  | .number x, .number y => x.equals y
  | .string s, .string t => s == t
  | .handle g, .handle h => g.shares h
  | _, _ => false

/-- Whether two values are one argument: they are equal, or neither is a number. -/
def same : Value P → Value P → Bool
  | .number x, .number y => (x.isNaN && y.isNaN) || x.equals y
  | v, w => v.equals w

def boolText (b : Bool) : String := if b then "true" else "false"

def display : Value P → String
  | .null => "null"
  | .bool b => boolText b
  | .number x => x.text
  | .string s => s
  | .handle h => h.label.getD "[object]"

end Value

namespace Callable

def total (args : List (Value P)) : Binary64 :=
  (args.filterMap Value.number?).foldl Binary64.add .zero

def call (f : Callable) (args : List (Value P)) : Value P :=
  match f with
  | .null => .null
  | .first => .ofOption args.head?
  | .last => .ofOption args.getLast?
  | .count => .ofInt args.length
  | .sum => .number (total args)
  | .concat => .string (.join (args.map Value.display))

end Callable

end Splice
