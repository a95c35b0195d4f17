import Splice.Proofs.MarkerSplit
import Splice.Template.Builder

namespace Splice

variable {P : Type}

theorem Template.eq_of_parts {t u : Template P} (hl : t.literals = u.literals)
    (hs : t.slots = u.slots) : t = u := by
  have h := t.interleave?_parts
  rw [hl, hs, u.interleave?_parts] at h
  exact (Option.some.inj h).symm

namespace Builder

namespace Part

def slot? : Part P → Option (Slot P)
  | .text _ => none
  | .slot s => some s
  | .item => some .item

def content : Part P → String
  | .text s => s
  | _ => ""

def isVoid : Part P → Bool
  | .text s => s.isEmpty
  | _ => false

def slotsOf (parts : List (Part P)) : List (Slot P) := parts.filterMap slot?

/-- The parts are split at the slots, and the texts of each run between them are joined. -/
def literalsOf (parts : List (Part P)) : List String :=
  (parts.splitOnP fun part => part.slot?.isSome).map fun run => .join (run.map content)

def alternate : List String → List (Slot P) → List (Part P)
  | literal :: literals, s :: slots => .text literal :: .slot s :: alternate literals slots
  | literals, slots => literals.map .text ++ slots.map .slot

@[simp]
theorem literalsOf_nil : literalsOf ([] : List (Part P)) = [""] := rfl

@[simp]
theorem literalsOf_text (s : String) (parts : List (Part P)) :
    literalsOf (.text s :: parts) = (literalsOf parts).modifyHead (s ++ ·) := by
  obtain ⟨run, runs, h⟩ :=
    List.exists_cons_of_ne_nil (List.splitOnP_ne_nil (fun part => (slot? part).isSome) parts)
  rw [literalsOf, literalsOf, List.splitOnP_cons_eq_if_modifyHead, h]
  simp [slot?, content]

theorem literalsOf_of_slot? {part : Part P} {s : Slot P} (h : part.slot? = some s)
    (parts : List (Part P)) : literalsOf (part :: parts) = "" :: literalsOf parts := by
  rw [literalsOf, List.splitOnP_cons_eq_if_modifyHead, h]
  rfl

theorem literalsOf_alternate {literals : List String} {slots : List (Slot P)}
    (h : literals.length = slots.length + 1) :
    literalsOf (alternate literals slots) = literals := by
  induction slots generalizing literals with
  | nil =>
    obtain ⟨literal, rfl⟩ := List.length_eq_one_iff.1 h
    simp [alternate]
  | cons s slots ih =>
    obtain ⟨literal, literals, rfl⟩ := List.exists_cons_of_length_eq_add_one h
    have hi := ih (Nat.succ.inj h)
    have hs : slot? (.slot s) = some s := rfl
    rw [alternate, literalsOf_text, literalsOf_of_slot? hs, hi]
    simp

theorem slotsOf_alternate {literals : List String} {slots : List (Slot P)}
    (h : literals.length = slots.length + 1) : slotsOf (alternate literals slots) = slots := by
  induction slots generalizing literals with
  | nil =>
    obtain ⟨literal, rfl⟩ := List.length_eq_one_iff.1 h
    rfl
  | cons s slots ih =>
    obtain ⟨literal, literals, rfl⟩ := List.exists_cons_of_length_eq_add_one h
    exact congrArg (s :: ·) (ih (Nat.succ.inj h))

end Part

open Builder.Part

def addAll (b : Builder P) (parts : List (Part P)) : Builder P := parts.foldl add b

def ofParts (parts : List (Part P)) : Template P := (addAll {} parts).build

theorem addAll_append (b : Builder P) (ps qs : List (Part P)) :
    b.addAll (ps ++ qs) = (b.addAll ps).addAll qs :=
  List.foldl_append

theorem add_of_slot? {part : Part P} {s : Slot P} (h : part.slot? = some s) (b : Builder P) :
    b.add part = b.slot s := by
  cases part with
  | text => cases h
  | slot => cases h; rfl
  | item => cases h; rfl

theorem literals_addAll (b : Builder P) (parts : List (Part P)) :
    (b.addAll parts).build.literals =
      b.closed.toList.map Prod.fst ++ (literalsOf parts).modifyHead (b.current ++ ·) := by
  induction parts generalizing b with
  | nil => simp [addAll, build, Template.literals]
  | cons part parts ih =>
    rw [addAll, List.foldl_cons]
    refine (ih (b.add part)).trans ?_
    cases h : part.slot? with
    | some s =>
      rw [add_of_slot? h, literalsOf_of_slot? h]
      cases literalsOf parts <;> simp [slot]
    | none =>
      cases part with
      | text s =>
        rw [add, text_eq, literalsOf_text]
        cases literalsOf parts <;> simp [String.append_assoc]
      | slot => cases h
      | item => cases h

theorem slots_addAll (b : Builder P) (parts : List (Part P)) :
    (b.addAll parts).build.slots = b.closed.toList.map Prod.snd ++ slotsOf parts := by
  induction parts generalizing b with
  | nil => simp [addAll, build, Template.slots, slotsOf]
  | cons part parts ih =>
    rw [addAll, List.foldl_cons]
    refine (ih (b.add part)).trans ?_
    rw [slotsOf, slotsOf, List.filterMap_cons]
    cases part with
    | text s => rw [add, text_eq, slot?]
    | slot s => simp [add, slot, slot?]
    | item => simp [add, item, slot, slot?]

theorem literals_ofParts (parts : List (Part P)) : (ofParts parts).literals = literalsOf parts := by
  rw [ofParts, literals_addAll]
  cases literalsOf parts <;> simp

theorem slots_ofParts (parts : List (Part P)) : (ofParts parts).slots = slotsOf parts :=
  slots_addAll {} parts

theorem text_text (b : Builder P) (s t : String) : (b.text s).text t = b.text (s ++ t) := by
  simp only [text_eq, String.append_assoc]

theorem text_empty (b : Builder P) : b.text "" = b := by
  rw [text_eq, String.append_empty]

theorem add_of_isVoid {part : Part P} (h : part.isVoid = true) (b : Builder P) :
    b.add part = b := by
  cases part with
  | text s =>
    rw [String.isEmpty_iff.1 h]
    exact text_empty b
  | slot => cases h
  | item => cases h

theorem addAll_texts (b : Builder P) (chunks : List String) :
    b.addAll (chunks.map .text) = b.text (.join chunks) := by
  induction chunks generalizing b with
  | nil => exact (text_empty b).symm
  | cons chunk chunks ih =>
    rw [String.join_cons, ← text_text]
    exact ih (b.text chunk)

theorem addAll_filter (b : Builder P) (parts : List (Part P)) :
    b.addAll (parts.filter fun part => !part.isVoid) = b.addAll parts := by
  induction parts generalizing b with
  | nil => rfl
  | cons part parts ih =>
    cases h : part.isVoid with
    | true =>
      rw [List.filter_cons_of_neg (by simp [h]), ih, addAll, addAll, List.foldl_cons,
        add_of_isVoid h]
    | false =>
      rw [List.filter_cons_of_pos (by simp [h])]
      exact ih (b.add part)

theorem ofParts_alternate (t : Template P) : ofParts (alternate t.literals t.slots) = t := by
  have h := t.length_literals
  apply Template.eq_of_parts
  · rw [literals_ofParts, literalsOf_alternate h]
  · rw [slots_ofParts, slotsOf_alternate h]

end Builder

namespace Template

open Builder.Part

def segmentParts : Nat × String × Option (Slot P) → List (Builder.Part P)
  | (_, literal, s) => .text literal :: s.toList.map .slot

theorem flatMap_segments (t : Template P) :
    t.segments.flatMap segmentParts = alternate t.literals t.slots := by
  rw [List.flatMap_def, map_segments fun i part => rfl, List.flatten_append, literals, slots]
  induction t.body with
  | nil => rfl
  | cons part body ih => exact congrArg (fun ps => .text part.1 :: .slot part.2 :: ps) ih

theorem parse_eq_ofParts {text : String} {slots : List (Slot P)}
    (h : slots.length = markerCount text.toList) :
    parse text slots = .ok (Builder.ofParts (alternate (pieces text) slots)) := by
  have hl : (pieces text).length = slots.length + 1 := by rw [length_pieces, h]
  obtain ⟨t, ht, hp, hs⟩ := exists_ofParts hl
  rw [parse_eq, ht, ← hp, ← hs, Builder.ofParts_alternate]

end Template

namespace Builder

open Builder.Part

/-- A builder, new or resumed, makes a template of the pushed slots and, between them, of all text
that was added there. Cutting a text into chunks and leaving out empty texts change nothing. The
segments of a template give it back, and those of a marked text give what is read from it. -/
theorem build_eq_segmentation :
    (∀ before after : List (Part P),
      ((addAll {} before).addAll after).build.slots = slotsOf (before ++ after) ∧
        ((addAll {} before).addAll after).build.literals = literalsOf (before ++ after)) ∧
    (∀ (before after : List (Part P)) (chunks : List String),
      ofParts (before ++ (chunks.map .text ++ after)) =
        ofParts (before ++ .text (.join chunks) :: after)) ∧
    (∀ parts : List (Part P), ofParts (parts.filter fun part => !part.isVoid) = ofParts parts) ∧
    (∀ t : Template P, ofParts (t.segments.flatMap Template.segmentParts) = t) ∧
    ∀ (text : String) (slots : List (Slot P)), slots.length = Template.markerCount text.toList →
      Template.parse text slots = .ok (ofParts (alternate (Template.pieces text) slots)) := by
  refine ⟨fun before after => ?_, fun before after chunks => ?_, fun parts => ?_, fun t => ?_,
    fun text slots h => Template.parse_eq_ofParts h⟩
  · rw [← addAll_append]
    exact ⟨slots_ofParts _, literals_ofParts _⟩
  · simp only [ofParts, addAll_append, addAll_texts]
    rfl
  · rw [ofParts, addAll_filter, ofParts]
  · rw [Template.flatMap_segments, ofParts_alternate]

theorem build_eq_segmentation_markers :
    [(.item : Slot), .value .null, .item].length =
        Template.markerCount "$\x7b\x7d$\x7b\x7da$\x7b\x7d".toList ∧
      Template.parse "$\x7b\x7d$\x7b\x7da$\x7b\x7d" [(.item : Slot), .value .null, .item] =
        .ok (ofParts (alternate (Template.pieces "$\x7b\x7d$\x7b\x7da$\x7b\x7d")
          [.item, .value .null, .item])) :=
  ⟨by decide, build_eq_segmentation.2.2.2.2 _ _ (by decide)⟩

end Builder

end Splice
