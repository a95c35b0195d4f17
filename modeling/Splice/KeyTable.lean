import Std.Data.HashMap
import Splice.Value.Identity

namespace Splice

structure KeyTable where
  keys : Std.HashMap Identity String := {}

inductive Registration where
  | fresh (key : String)
  | reused (key : String)
  deriving DecidableEq

def Registration.key : Registration → String
  | .fresh key => key
  | .reused key => key

namespace KeyTable

variable {P : Type}

def size (t : KeyTable) : Nat := t.keys.size

def key? (t : KeyTable) (v : Value P) : Option String := t.keys[v.identity]?

def register (t : KeyTable) (v : Value P) (key : String) : Registration × KeyTable :=
  match t.key? v with
  | some earlier => (.reused earlier, t)
  | none => (.fresh key, ⟨t.keys.insert v.identity key⟩)

theorem key?_register_self (t : KeyTable) (v : Value P) (key : String) :
    (t.register v key).2.key? v = some (t.register v key).1.key := by
  unfold register
  split
  · assumption
  · simp [key?, Registration.key]

theorem key?_register_of_ne (t : KeyTable) {v w : Value P} (h : v.identity ≠ w.identity)
    (key : String) : (t.register v key).2.key? w = t.key? w := by
  unfold register
  split
  · rfl
  · simp [key?, Std.HashMap.getElem?_insert, h]

end KeyTable

end Splice
