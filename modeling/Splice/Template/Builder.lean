import Splice.Template

namespace Splice

structure Builder (P : Type := Payload) where
  closed : Array (String × Slot P) := #[]
  current : String := ""

namespace Builder

inductive Part (P : Type := Payload) where
  | text (s : String)
  | slot (s : Slot P)
  | item
  deriving DecidableEq

variable {P : Type}

/-- Adds to the open literal; the first text that is not empty becomes the literal. -/
def text (b : Builder P) (s : String) : Builder P :=
  if b.current.isEmpty then { b with current := s } else { b with current := b.current ++ s }

def slot (b : Builder P) (s : Slot P) : Builder P := ⟨b.closed.push (b.current, s), ""⟩

def item (b : Builder P) : Builder P := b.slot .item

def add (b : Builder P) : Part P → Builder P
  | .text s => b.text s
  | .slot s => b.slot s
  | .item => b.item

def build (b : Builder P) : Template P := ⟨b.closed.toList, b.current⟩

theorem text_eq (b : Builder P) (s : String) : b.text s = ⟨b.closed, b.current ++ s⟩ := by
  unfold text
  split
  · next h => rw [String.isEmpty_iff.1 h, String.empty_append]
  · rfl

end Builder

end Splice
