import Splice.Proofs.Rendering
import Splice.Proofs.Segmentation

namespace Splice

variable {P : Type}

namespace Template

/-- Goes through the literals and takes along the slot of the same number, if there is one. Slots
with higher numbers are never met. -/
def walk (literals : List String) (slots : List (Slot P)) : List (Segment P) :=
  literals.mapIdx fun i literal => (i, literal, slots[i]?)

/-- A walk that misses no slot, meets none twice and ends with a literal. -/
structure Walked (literals : List String) (slots : List (Slot P)) (segments : List (Segment P)) :
    Prop where
  length_literals : literals.length = slots.length + 1
  by_number : segments = walk literals slots
  numbers : segments.map Prod.fst = List.range (slots.length + 1)
  met : segments.filterMap (fun seg => seg.2.2) = slots
  paired : ∀ (i : Nat) (literal : String) (s : Slot P), literals[i]? = some literal →
    slots[i]? = some s → segments[i]? = some (i, literal, some s)
  last : ∀ literal, literals.getLast? = some literal →
    segments[slots.length]? = some (slots.length, literal, none)

theorem getElem?_walk (literals : List String) (slots : List (Slot P)) (i : Nat) :
    (walk literals slots)[i]? = literals[i]?.map fun literal => (i, literal, slots[i]?) :=
  List.getElem?_mapIdx

theorem numbers_walk (literals : List String) (slots : List (Slot P)) :
    (walk literals slots).map Prod.fst = List.range literals.length := by
  apply List.ext_getElem
  · simp [walk]
  · intro i h₁ h₂
    simp [walk]

theorem slots_walk (literals : List String) (slots : List (Slot P)) :
    (walk literals slots).filterMap (fun seg => seg.2.2) = slots.take literals.length := by
  -- from the end, so that all other literals keep their numbers
  induction literals using List.reverseRecOn with
  | nil => rfl
  | append_singleton literals literal ih =>
    rw [walk, List.mapIdx_concat, List.filterMap_append, ← walk, ih, List.length_append,
      List.length_singleton, List.take_add_one]
    cases slots[literals.length]? <;> rfl

example : walk ["a"] [(.item : Slot), .value .null] = [(0, "a", some .item)] := by decide

theorem walked_walk {literals : List String} {slots : List (Slot P)}
    (h : literals.length = slots.length + 1) : Walked literals slots (walk literals slots) := by
  refine ⟨h, rfl, ?_, ?_, ?_, ?_⟩
  · rw [numbers_walk, h]
  · rw [slots_walk, List.take_of_length_le (by omega)]
  · intro i literal s hl hs
    rw [getElem?_walk, hl, hs, Option.map_some]
  · intro literal hl
    rw [List.getLast?_eq_getElem?, h, Nat.add_sub_cancel] at hl
    rw [getElem?_walk, hl, List.getElem?_eq_none le_rfl, Option.map_some]

theorem segments_eq_walk (t : Template P) : t.segments = walk t.literals t.slots := by
  have hb : (t.body.mapIdx fun i part => (i, part.1, some part.2)) =
      walk (t.body.map Prod.fst) t.slots := by
    apply List.ext_getElem
    · simp [walk]
    · intro i h₁ h₂
      have hi : i < t.body.length := by simpa using h₁
      simp [walk, slots, hi]
  have ht : t.slots[t.slotCount]? = none := List.getElem?_eq_none (by simp [slots, slotCount])
  rw [segments, hb, literals, walk, walk, List.mapIdx_concat, List.length_map, ← slotCount, ht]

/-- Parts make the one template that has them, if there is one literal more than there are slots,
and otherwise an error with both counts. -/
structure Pairs (literals : List String) (slots : List (Slot P))
    (made : Except ArityMismatch (Template P)) : Prop where
  ok_iff : ∀ t, made = .ok t ↔ t.literals = literals ∧ t.slots = slots
  error_iff : ∀ e, made = .error e ↔
    literals.length ≠ slots.length + 1 ∧ e = ⟨literals.length, slots.length⟩

theorem pairs_ofParts (literals : List String) (slots : List (Slot P)) :
    Pairs literals slots (ofParts literals slots) := by
  constructor
  · intro t
    constructor
    · intro h
      cases hi : interleave? literals slots with
      | none => simp [ofParts, hi] at h
      | some u =>
        rw [ofParts, hi, Except.ok.injEq] at h
        rw [← h]
        exact parts_of_interleave? hi
    · rintro ⟨rfl, rfl⟩
      rw [ofParts, interleave?_parts]
  · intro e
    by_cases h : literals.length = slots.length + 1
    · obtain ⟨t, ht, -⟩ := exists_ofParts h
      simp [ht, h]
    · rw [ofParts_of_length_ne h, Except.error.injEq]
      simp [h, eq_comm]

end Template

namespace Draft

def passPairs (c : Config) (t : Template P) (driver : Option (Value P)) (d : Draft P) : Draft P :=
  ((t.literals.zip t.slots).zipIdx.foldl
    (fun d part => (d.append part.1.1).slot c driver part.2 part.1.2) d).append t.tail

theorem pass_eq_passPairs (d : Draft P) (c : Config) (t : Template P) (driver : Option (Value P)) :
    d.pass c t driver = d.passPairs c t driver := by
  have hz : t.literals.zip t.slots = t.body := by
    rw [Template.literals, Template.slots]
    induction t.body with
    | nil => rfl
    | cons part body ih => exact congrArg (part :: ·) ih
  rw [pass, passPairs, hz, Template.segments, List.foldl_append, List.mapIdx_eq_zipIdx_map,
    List.foldl_map]
  rfl

end Draft

namespace Template

theorem writtenOut_eq_ok_iff {text : String} {slots : List (Slot P)} {t : Template P} :
    writtenOut text slots = .ok t ↔ t.literals = pieces text ∧ t.slots = slots := by
  rw [← (pairs_ofParts (pieces text) slots).ok_iff, ← parse_eq, writtenOut]
  cases parse text slots <;> simp

theorem writtenOut_eq_error_iff {text message : String} {slots : List (Slot P)} :
    writtenOut text slots = .error message ↔ (pieces text).length ≠ slots.length + 1 ∧
      message = ArityMismatch.message ⟨(pieces text).length, slots.length⟩ := by
  constructor
  · intro h
    cases hp : parse text slots with
    | ok t => simp [writtenOut, hp] at h
    | error e =>
      obtain ⟨hn, rfl⟩ := ((pairs_ofParts (pieces text) slots).error_iff e).1 hp
      rw [writtenOut, hp] at h
      exact ⟨hn, (Except.error.inj h).symm⟩
  · rintro ⟨hn, rfl⟩
    rw [writtenOut, parse_eq, ofParts_of_length_ne hn]

/-- Whatever a template is made from, it is made of paired literals and slots, or an error tells
both counts. So the walk over its segments, and every pass with it, meets each slot once, in order
and after its own literal, and ends with the last literal. -/
theorem constructions_paired :
    (∀ text : String,
      (ofLiteral text : Template P).literals = [text] ∧ (ofLiteral text : Template P).slots = []) ∧
    (∀ (literals : List String) (slots : List (Slot P)),
      Pairs literals slots (ofParts literals slots)) ∧
    (∀ (text : String) (slots : List (Slot P)), Pairs (pieces text) slots (parse text slots) ∧
      (∀ t, writtenOut text slots = .ok t ↔ t.literals = pieces text ∧ t.slots = slots) ∧
      ∀ message, writtenOut text slots = .error message ↔
        (pieces text).length ≠ slots.length + 1 ∧
          message = ArityMismatch.message ⟨(pieces text).length, slots.length⟩) ∧
    (∀ parts : List (Builder.Part P),
      (Builder.ofParts parts).literals = Builder.Part.literalsOf parts ∧
        (Builder.ofParts parts).slots = Builder.Part.slotsOf parts) ∧
    ∀ t : Template P, Walked t.literals t.slots t.segments ∧
      ∀ (d : Draft P) (c : Config) (driver : Option (Value P)),
        d.pass c t driver = d.passPairs c t driver := by
  refine ⟨fun text => ⟨rfl, rfl⟩, pairs_ofParts, fun text slots => ⟨?_, ?_, ?_⟩, fun parts => ?_,
    fun t => ⟨?_, fun d c driver => d.pass_eq_passPairs c t driver⟩⟩
  · exact pairs_ofParts (pieces text) slots
  · exact fun t => writtenOut_eq_ok_iff
  · exact fun message => writtenOut_eq_error_iff
  · exact ⟨Builder.literals_ofParts parts, Builder.slots_ofParts parts⟩
  · rw [segments_eq_walk]
    exact walked_walk t.length_literals

end Template

end Splice
