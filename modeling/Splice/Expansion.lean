import Splice.Bindings
import Splice.Config
import Splice.KeyTable
import Splice.Template

namespace Splice

structure Expansion (P : Type := Payload) where
  source : String
  bindings : Bindings P

structure Draft (P : Type) where
  table : KeyTable := {}
  source : String := ""
  bindings : Bindings P := .empty

variable {P : Type}

namespace Draft

def append (d : Draft P) (text : String) : Draft P := { d with source := d.source ++ text }

def access (c : Config) (slot : Nat) (v : Value P) (d : Draft P) : Draft P :=
  let registered := d.table.register v (c.entryKey slot)
  { table := registered.2
    source := d.source ++ c.lookupVar ++ "." ++ registered.1.key
    bindings :=
      match registered.1 with
      | .fresh key => (d.bindings.insert key v).2
      | .reused _ => d.bindings }

def value (c : Config) (slot : Nat) (v : Value P) (d : Draft P) : Draft P :=
  match v.literal? with
  | some literal => if c.inlinePrimitives then d.append literal else d.access c slot v
  | none => d.access c slot v

/-- Writes a slot; an item shows the driver, if there is one. -/
def slot (c : Config) (driver : Option (Value P)) (i : Nat) (s : Slot P) (d : Draft P) : Draft P :=
  match s, driver with
  | .item, some v => d.append v.display
  | s, _ => d.value c i s.toValue

def segment (c : Config) (driver : Option (Value P)) (d : Draft P) :
    Nat × String × Option (Slot P) → Draft P
  | (i, literal, some s) => (d.append literal).slot c driver i s
  | (_, literal, none) => d.append literal

def pass (c : Config) (t : Template P) (driver : Option (Value P)) (d : Draft P) : Draft P :=
  t.segments.foldl (segment c driver) d

def finish (d : Draft P) : Expansion P := ⟨d.source, d.bindings⟩

end Draft

namespace Config

def expand (c : Config) (t : Template P) : Expansion P := (Draft.pass c t none {}).finish

/-- Expands a template once for each driver. All passes share one table of keys. -/
def expandEach (c : Config) (drivers : List (Value P)) (t : Template P) : Expansion P :=
  (drivers.foldl (fun d v => d.pass c t (some v)) ({} : Draft P)).finish

end Config

namespace Expansion

def empty : Expansion P := ⟨"", .empty⟩

def equals (a b : Expansion P) : Bool := a.source == b.source && a.bindings.equals b.bindings

end Expansion

end Splice
