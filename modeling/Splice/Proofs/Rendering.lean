import Std.Data.String.ToNat
import Splice.Proofs.Registry

namespace Splice

variable {P : Type}

namespace Config

def inlined? (c : Config) (v : Value P) : Option String :=
  if c.inlinePrimitives then v.literal? else none

def accessText (c : Config) (key : String) : String := c.lookupVar ++ "." ++ key

theorem entryKey_inj (c : Config) {i j : Nat} (h : c.entryKey i = c.entryKey j) : i = j := by
  simp only [entryKey] at h
  exact Nat.repr_injective ((String.append_right_inj c.keyPrefix).1 h)

end Config

namespace Slot

def isItem : Slot P → Bool
  | .value _ => false
  | .item => true

@[simp]
theorem isItem_value (v : Value P) : (value v).isItem = false := rfl

@[simp]
theorem isItem_item : (item : Slot P).isItem = true := rfl

def registers (c : Config) (driven : Bool) (s : Slot P) : Bool :=
  !(driven && s.isItem) && (c.inlined? s.toValue).isNone

/-- The text of a slot, when `key` says which key an argument is read under. -/
def text (c : Config) (key : Value P → String) (driver : Option (Value P)) (s : Slot P) : String :=
  match s, driver with
  | .item, some v => v.display
  | s, _ => (c.inlined? s.toValue).getD (c.accessText (key s.toValue))

theorem text_of_registers {c : Config} {driver : Option (Value P)} {s : Slot P}
    (h : s.registers c driver.isSome = true) (key : Value P → String) :
    s.text c key driver = c.accessText (key s.toValue) := by
  cases s with
  | value v => simp_all [registers, text]
  | item => cases driver <;> simp_all [registers, text]

theorem text_of_not_registers {c : Config} {driver : Option (Value P)} {s : Slot P}
    (h : s.registers c driver.isSome ≠ true) (f g : Value P → String) :
    s.text c f driver = s.text c g driver := by
  have hv : ∀ v, (c.inlined? v).isNone ≠ true →
      (c.inlined? v).getD (c.accessText (f v)) = (c.inlined? v).getD (c.accessText (g v)) := by
    intro v hi
    cases hl : c.inlined? v with
    | none => exact absurd (by rw [hl]; rfl) hi
    | some literal => rfl
  cases s with
  | value v => exact hv v (by simpa [registers, toValue] using h)
  | item =>
    cases driver with
    | none => exact hv _ (by simpa [registers] using h)
    | some w => rfl

end Slot

namespace Template

def render (c : Config) (key : Value P → String) (driver : Option (Value P)) (t : Template P) :
    String :=
  .join (t.body.map fun part => part.1 ++ part.2.text c key driver) ++ t.tail

abbrev Segment (P : Type) := Nat × String × Option (Slot P)

def request? (c : Config) (driven : Bool) : Segment P → Option (Request P)
  | (i, _, some s) => if s.registers c driven then some (c.entryKey i, s.toValue) else none
  | (_, _, none) => none

def requests (c : Config) (driven : Bool) (t : Template P) : List (Request P) :=
  t.segments.filterMap (request? c driven)

def registry (c : Config) (driven : Bool) (t : Template P) : Registry P :=
  Registry.recordAll {} (t.requests c driven)

def segmentText (c : Config) (key : Value P → String) (driver : Option (Value P)) :
    Segment P → String
  | (_, literal, some s) => literal ++ s.text c key driver
  | (_, literal, none) => literal

theorem render_eq_join (c : Config) (key : Value P → String) (driver : Option (Value P))
    (t : Template P) :
    t.render c key driver = .join (t.segments.map (segmentText c key driver)) := by
  have hs : ∀ (i : Nat) (part : String × Slot P),
      segmentText c key driver (i, part.1, some part.2) = part.1 ++ part.2.text c key driver :=
    fun _ _ => rfl
  rw [render, map_segments hs, String.join_append]
  simp [segmentText]

theorem slot_of_mem_segments {t : Template P} {i : Nat} {literal : String} {s : Slot P}
    (h : (i, literal, some s) ∈ t.segments) : t.slots[i]? = some s := by
  simp only [segments, List.mem_append, List.mem_mapIdx, List.mem_singleton, Prod.mk.injEq,
    reduceCtorEq, and_false, or_false] at h
  obtain ⟨j, hj, rfl, -, hs⟩ := h
  rw [Option.some.injEq] at hs
  simp [slots, hj, hs]

theorem mem_segments_of_slot {t : Template P} {i : Nat} {s : Slot P} (h : t.slots[i]? = some s) :
    ∃ literal, (i, literal, some s) ∈ t.segments := by
  simp only [slots, List.getElem?_map, Option.map_eq_some_iff] at h
  obtain ⟨part, hp, rfl⟩ := h
  obtain ⟨hi, rfl⟩ := List.getElem?_eq_some_iff.1 hp
  refine ⟨t.body[i].1, List.mem_append_left _ ?_⟩
  exact List.mem_mapIdx.2 ⟨i, hi, rfl⟩

theorem mem_requests_iff {c : Config} {driven : Bool} {t : Template P} {q : Request P} :
    q ∈ t.requests c driven ↔ ∃ i s, t.slots[i]? = some s ∧ s.registers c driven = true ∧
      q = (c.entryKey i, s.toValue) := by
  rw [requests, List.mem_filterMap]
  constructor
  · rintro ⟨⟨i, literal, slot⟩, hm, hq⟩
    cases slot with
    | none => simp [request?] at hq
    | some s =>
      simp only [request?, Option.ite_none_right_eq_some, Option.some.injEq] at hq
      exact ⟨i, s, slot_of_mem_segments hm, hq.1, hq.2.symm⟩
  · rintro ⟨i, s, hs, hr, rfl⟩
    obtain ⟨literal, hm⟩ := mem_segments_of_slot hs
    exact ⟨_, hm, by simp [request?, hr]⟩

/-- Requests that come from the slots of one template are consistent, in any order and however
often they are made: the number in a key leads back to the slot. -/
theorem consistent_of_slots {c : Config} {t : Template P} {qs : List (Request P)}
    (h : ∀ q ∈ qs, ∃ i s, t.slots[i]? = some s ∧ q = (c.entryKey i, s.toValue)) :
    Request.Consistent qs := by
  intro q hq p hp hk
  obtain ⟨i, s, hs, rfl⟩ := h p hp
  obtain ⟨j, u, hu, rfl⟩ := h q hq
  have hij : i = j := c.entryKey_inj hk
  subst hij
  rw [hs, Option.some.injEq] at hu
  rw [hu]

theorem records_registry (c : Config) (driven : Bool) (t : Template P) :
    (t.registry c driven).Records (t.requests c driven) := by
  apply Registry.records_recordAll
  apply consistent_of_slots (c := c) (t := t)
  intro q hq
  obtain ⟨i, s, hs, -, rfl⟩ := mem_requests_iff.1 hq
  exact ⟨i, s, hs, rfl⟩

end Template

namespace Draft

@[simp]
theorem registry_append (d : Draft P) (text : String) : (d.append text).registry = d.registry := rfl

theorem registry_access (d : Draft P) (c : Config) (i : Nat) (v : Value P) :
    (d.access c i v).registry = d.registry.record (c.entryKey i, v) := by
  cases h : d.table.key? v with
  | some key => simp [access, registry, Registry.record, KeyTable.register, h]
  | none => simp [access, registry, Registry.record, KeyTable.register, h]

theorem source_access (d : Draft P) (c : Config) (i : Nat) (v : Value P) :
    ∃ key, (d.access c i v).table.key? v = some key ∧
      (d.access c i v).source = d.source ++ c.accessText key := by
  refine ⟨(d.table.register v (c.entryKey i)).1.key, ?_, ?_⟩
  · exact KeyTable.key?_register_self d.table v (c.entryKey i)
  · simp [access, Config.accessText, String.append_assoc]

theorem slot_eq (d : Draft P) (c : Config) (key : Value P → String) (driver : Option (Value P))
    (i : Nat) (s : Slot P) :
    d.slot c driver i s =
      if s.registers c driver.isSome then d.access c i s.toValue
      else d.append (s.text c key driver) := by
  have hv : ∀ v, d.value c i v =
      if (c.inlined? v).isNone then d.access c i v
      else d.append ((c.inlined? v).getD (c.accessText (key v))) := by
    intro v
    unfold value Config.inlined?
    cases v.literal? with
    | none => simp
    | some literal => cases c.inlinePrimitives <;> simp
  cases s with
  | value v => simp [slot, Slot.registers, Slot.text, hv]
  | item =>
    cases driver with
    | none => simp [slot, Slot.registers, Slot.text, hv]
    | some w => simp [slot, Slot.registers, Slot.text]

theorem registry_segment (d : Draft P) (c : Config) (driver : Option (Value P))
    (seg : Template.Segment P) :
    (d.segment c driver seg).registry =
      d.registry.recordAll (Template.request? c driver.isSome seg).toList := by
  obtain ⟨i, literal, slot⟩ := seg
  cases slot with
  | none => rfl
  | some s =>
    simp only [segment, Template.request?]
    rw [slot_eq (d.append literal) c (fun _ => "")]
    by_cases h : s.registers c driver.isSome = true
    · simp only [h, ↓reduceIte, registry_access, registry_append]
      rfl
    · simp only [h, Bool.false_eq_true, ↓reduceIte, registry_append]
      rfl

theorem source_segment (d : Draft P) (c : Config) (driver : Option (Value P))
    (seg : Template.Segment P) {u : KeyTable}
    (hu : u.Extends (d.segment c driver seg).table) :
    (d.segment c driver seg).source = d.source ++ Template.segmentText c u.keyOf driver seg := by
  obtain ⟨i, literal, slot⟩ := seg
  cases slot with
  | none => rfl
  | some s =>
    simp only [segment, Template.segmentText] at hu ⊢
    rw [slot_eq (d.append literal) c u.keyOf] at hu ⊢
    by_cases h : s.registers c driver.isSome = true
    · rw [if_pos h] at hu ⊢
      obtain ⟨key, hk, hs⟩ := source_access (d.append literal) c i s.toValue
      rw [hs, Slot.text_of_registers h, hu.keyOf_eq hk]
      exact String.append_assoc
    · rw [if_neg h]
      exact String.append_assoc

theorem registry_segments (c : Config) (driver : Option (Value P))
    (segs : List (Template.Segment P)) (d : Draft P) :
    (segs.foldl (segment c driver) d).registry =
      d.registry.recordAll (segs.filterMap (Template.request? c driver.isSome)) := by
  induction segs generalizing d with
  | nil => rfl
  | cons seg segs ih =>
    rw [List.foldl_cons, ih, registry_segment, ← Registry.recordAll_append]
    congr 1
    cases h : Template.request? c driver.isSome seg <;> simp [h]

/-- Text is written under the keys of any later table, since a key that has been read is never
given up. -/
theorem source_segments (c : Config) (driver : Option (Value P))
    (segs : List (Template.Segment P)) (d : Draft P) {u : KeyTable}
    (hu : u.Extends (segs.foldl (segment c driver) d).table) :
    (segs.foldl (segment c driver) d).source =
      d.source ++ .join (segs.map (Template.segmentText c u.keyOf driver)) := by
  induction segs generalizing d with
  | nil => simp
  | cons seg segs ih =>
    rw [List.foldl_cons] at hu ⊢
    have hs : (segs.foldl (segment c driver) (d.segment c driver seg)).table.Extends
        (d.segment c driver seg).table := by
      have h := Registry.extends_recordAll (d.segment c driver seg).registry
        (segs.filterMap (Template.request? c driver.isSome))
      rw [← registry_segments] at h
      exact h
    rw [ih _ hu, source_segment d c driver seg (hu.trans hs), List.map_cons, String.join_cons,
      String.append_assoc]

theorem registry_pass (d : Draft P) (c : Config) (t : Template P) (driver : Option (Value P)) :
    (d.pass c t driver).registry = d.registry.recordAll (t.requests c driver.isSome) :=
  registry_segments c driver t.segments d

theorem source_pass (d : Draft P) (c : Config) (t : Template P) (driver : Option (Value P))
    {u : KeyTable} (hu : u.Extends (d.pass c t driver).table) :
    (d.pass c t driver).source = d.source ++ t.render c u.keyOf driver := by
  rw [Template.render_eq_join]
  exact source_segments c driver t.segments d hu

end Draft

end Splice
