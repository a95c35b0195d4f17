import Splice.Value

namespace Splice

/-- A slot holds a value, or stands for the current driver of a repeated template. -/
inductive Slot (P : Type := Payload) where
  | value (v : Value P)
  | item
  deriving DecidableEq

variable {P : Type}

namespace Slot

def itemMarker : String := "%s"

def ofValue : Value P → Slot P
  | .string s => if s = itemMarker then .item else .value (.string s)
  | v => .value v

/-- The value that a slot stands for where there is no driver. -/
def toValue : Slot P → Value P
  | .value v => v
  | .item => .string itemMarker

def equals : Slot P → Slot P → Bool
  | .value v, .value w => v.equals w
  | .item, .item => true
  | _, _ => false

end Slot

/-- Every slot is kept with the literal before it and the last literal apart, so that there is always
one literal more than there are slots. -/
structure Template (P : Type := Payload) where
  body : List (String × Slot P)
  tail : String
  deriving DecidableEq

namespace Template

def ofLiteral (text : String) : Template P := ⟨[], text⟩

def literals (t : Template P) : List String := t.body.map Prod.fst ++ [t.tail]

def slots (t : Template P) : List (Slot P) := t.body.map Prod.snd

def slotCount (t : Template P) : Nat := t.body.length

def literalLength (t : Template P) : Nat :=
  t.literals.foldl (fun n literal => n + literal.utf8ByteSize) 0

def segments (t : Template P) : List (Nat × String × Option (Slot P)) :=
  t.body.mapIdx (fun i part => (i, part.1, some part.2)) ++ [(t.slotCount, t.tail, none)]

def equals (s t : Template P) : Bool :=
  s.literals == t.literals && s.slots.isEqv t.slots Slot.equals

structure ArityMismatch where
  literals : Nat
  slots : Nat
  deriving DecidableEq

def ArityMismatch.message (e : ArityMismatch) : String :=
  s!"malformed template: {e.literals} literal segments for {e.slots} argument slots " ++
    s!"(expected {e.slots + 1} segments)"

def interleave? : List String → List (Slot P) → Option (Template P)
  | [literal], [] => some ⟨[], literal⟩
  | literal :: literals, slot :: slots =>
    (interleave? literals slots).map fun t => { t with body := (literal, slot) :: t.body }
  | _, _ => none

def ofParts (literals : List String) (slots : List (Slot P)) : Except ArityMismatch (Template P) :=
  match interleave? literals slots with
  | some t => .ok t
  | none => .error ⟨literals.length, slots.length⟩

/-- The text before the first slot marker, and the texts after each one. -/
def split : List Char → List Char × List (List Char)
  | [] => ([], [])
  | '$' :: '{' :: '}' :: s =>
    let rest := split s
    ([], rest.1 :: rest.2)
  | c :: s =>
    let rest := split s
    (c :: rest.1, rest.2)

def parse (text : String) (slots : List (Slot P)) : Except ArityMismatch (Template P) :=
  let literals := split text.toList
  ofParts ((literals.1 :: literals.2).map String.ofList) slots

/-- A template that a program writes out. Slots that do not fit its text end the program, with a
message. -/
def writtenOut (text : String) (slots : List (Slot P)) : Except String (Template P) :=
  match parse text slots with
  | .ok t => .ok t
  | .error e => .error e.message

theorem length_literals (t : Template P) : t.literals.length = t.slots.length + 1 := by
  simp [literals, slots]

theorem map_segments {β : Type} {f : Nat × String × Option (Slot P) → β} {g : String × Slot P → β}
    (h : ∀ i part, f (i, part.1, some part.2) = g part) (t : Template P) :
    t.segments.map f = t.body.map g ++ [f (t.slotCount, t.tail, none)] := by
  have hb : (t.body.mapIdx fun i part => (i, part.1, some part.2)).map f = t.body.map g := by
    apply List.ext_getElem
    · simp
    · intro i h₁ h₂
      simp [h]
  rw [segments, List.map_append, hb, List.map_singleton]

theorem interleave?_parts (t : Template P) : interleave? t.literals t.slots = some t := by
  obtain ⟨body, tail⟩ := t
  induction body with
  | nil => rfl
  | cons part body ih =>
    simp only [literals, slots] at ih
    cases body <;> simp_all [literals, slots, interleave?]

theorem parts_of_interleave? {ls : List String} {ss : List (Slot P)} {t : Template P}
    (h : interleave? ls ss = some t) : t.literals = ls ∧ t.slots = ss := by
  fun_induction interleave? ls ss generalizing t with
  | case1 literal =>
    cases h
    simp [literals, slots]
  | case2 literal ls slot ss ih =>
    obtain ⟨u, hu, rfl⟩ := Option.map_eq_some_iff.1 h
    obtain ⟨hl, hs⟩ := ih hu
    constructor
    · rw [← hl]; rfl
    · rw [← hs]; rfl
  | case3 => simp at h

theorem interleave?_isSome_iff {ls : List String} {ss : List (Slot P)} :
    (interleave? ls ss).isSome ↔ ls.length = ss.length + 1 := by
  fun_induction interleave? ls ss with
  | case1 => simp
  | case2 literal ls slot ss ih => simpa using ih
  | case3 ls ss h1 h2 =>
    cases ls with
    | nil => simp
    | cons l ls =>
      cases ss with
      | nil => cases ls <;> simp_all
      | cons s ss => exact (h2 l ls s ss rfl rfl).elim

end Template

end Splice
