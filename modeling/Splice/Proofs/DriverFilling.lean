import Mathlib.Data.List.Basic
import Splice.Proofs.FirstOccurrence

namespace Splice

variable {P : Type}

theorem Binary64.infinity_lt : infinity < 0x8000000000000000 := by decide

namespace Value

def isScalar : Value P → Bool
  | .null | .bool _ => true
  | .number x => !x.isNaN
  | .string _ | .handle _ => false

theorem literal?_of_isScalar {v : Value P} (h : v.isScalar = true) :
    v.literal? = some v.display := by
  cases v with
  | null => rfl
  | bool b => rfl
  | number x =>
    have hn : x.isNaN = false := by simpa [isScalar] using h
    simp [literal?, display, hn]
  | string s => cases h
  | handle g => cases h

end Value

namespace Slot

def fill (v : Value P) : Slot P → Slot P
  | .item => .value v
  | .value w => .value w

/-- The slot is no item, or the driver is inlined as the text that it is shown as. -/
def FilledAlike (c : Config) (v : Value P) (s : Slot P) : Prop :=
  s = .item → c.inlined? v = some v.display

variable {c : Config} {v : Value P} {s : Slot P}

theorem registers_fill (h : s.FilledAlike c v) :
    (s.fill v).registers c false = s.registers c true := by
  cases s with
  | value w => simp [fill, registers]
  | item => simp [fill, registers, toValue, h rfl]

theorem toValue_fill (h : s.registers c true = true) : (s.fill v).toValue = s.toValue := by
  cases s with
  | value w => rfl
  | item => simp [registers] at h

theorem text_fill (h : s.FilledAlike c v) (key : Value P → String) :
    (s.fill v).text c key none = s.text c key (some v) := by
  cases s with
  | value w => rfl
  | item => simp [fill, text, toValue, h rfl]

end Slot

namespace Template

def fill (v : Value P) (t : Template P) : Template P :=
  ⟨t.body.map fun part => (part.1, part.2.fill v), t.tail⟩

theorem slots_fill (v : Value P) (t : Template P) :
    (t.fill v).slots = t.slots.map (Slot.fill v) := by
  rw [slots, slots, fill, List.map_map, List.map_map]
  rfl

theorem fill_of_no_item {t : Template P} (h : Slot.item ∉ t.slots) (v : Value P) :
    t.fill v = t := by
  have hb : ∀ part ∈ t.body, (part.1, part.2.fill v) = part := by
    rintro ⟨literal, s⟩ hp
    cases s with
    | value w => rfl
    | item => exact absurd (List.mem_map_of_mem hp) h
  rw [fill, List.map_congr_left hb, List.map_id']

variable {c : Config} {v : Value P} {t : Template P}

theorem requests_fill (h : ∀ s ∈ t.slots, s.FilledAlike c v) :
    (t.fill v).requests c false = t.requests c true := by
  rw [requests_eq_slots, requests_eq_slots, slots_fill, Slot.requests, Slot.requests,
    List.zipIdx_map, List.filterMap_map]
  apply List.filterMap_congr
  intro part hp
  have hs := Slot.registers_fill (h part.1 (List.fst_mem_of_mem_zipIdx hp))
  by_cases hr : part.1.registers c true = true
  · simp [hs, hr, Slot.toValue_fill hr]
  · simp [hs, hr]

theorem render_fill (h : ∀ s ∈ t.slots, s.FilledAlike c v) (key : Value P → String) :
    (t.fill v).render c key none = t.render c key (some v) := by
  have hb : ((t.fill v).body.map fun part => part.1 ++ part.2.text c key none) =
      t.body.map fun part => part.1 ++ part.2.text c key (some v) := by
    rw [fill, List.map_map]
    apply List.map_congr_left
    intro part hp
    exact congrArg (part.1 ++ ·) (Slot.text_fill (h part.2 (List.mem_map_of_mem hp)) key)
  rw [render, hb]
  rfl

theorem registry_fill (h : ∀ s ∈ t.slots, s.FilledAlike c v) :
    (t.fill v).registry c false = t.registry c true := by
  rw [registry, registry, requests_fill h]

end Template

namespace Config

variable {c : Config} {v : Value P} {vs : List (Value P)} {t : Template P}

theorem source_expandEach_eq_fill (h : ∀ w ∈ vs, ∀ s ∈ t.slots, s.FilledAlike c w) :
    (c.expandEach vs t).source = .join (vs.map fun w => (c.expand (t.fill w)).source) := by
  rw [source_expandEach]
  congr 1
  apply List.map_congr_left
  intro w hw
  rw [source_expand, Template.registry_fill (h w hw), Template.render_fill (h w hw)]

theorem bindings_expandEach_eq_fill {w : Value P} (h : ∀ s ∈ t.slots, s.FilledAlike c w) :
    (c.expandEach (v :: vs) t).bindings = (c.expand (t.fill w)).bindings := by
  rw [bindings_expandEach_cons, bindings_expand, Template.registry_fill h]

/-- With inlining, expanding for each of some scalar drivers joins the texts of the templates filled
with one driver each, and binds what every one of these binds alone. Without items, any drivers only
repeat the single expansion. -/
theorem expandEach_eq_filled_expansions (c : Config) (t : Template P) {vs : List (Value P)}
    (hn : vs ≠ []) :
    (c.inlinePrimitives = true → (∀ w ∈ vs, w.isScalar = true) →
      (c.expandEach vs t).source = .join (vs.map fun w => (c.expand (t.fill w)).source) ∧
        ∀ w ∈ vs, (c.expandEach vs t).bindings = (c.expand (t.fill w)).bindings) ∧
    (Slot.item ∉ t.slots →
      (c.expandEach vs t).source = .join (List.replicate vs.length (c.expand t).source) ∧
        (c.expandEach vs t).bindings = (c.expand t).bindings) := by
  obtain ⟨v, vs, rfl⟩ := List.exists_cons_of_ne_nil hn
  constructor
  · intro hc hv
    have hf : ∀ w ∈ v :: vs, ∀ s ∈ t.slots, s.FilledAlike c w := by
      intro w hw s _ _
      rw [inlined?, hc, if_pos rfl, Value.literal?_of_isScalar (hv w hw)]
    exact ⟨source_expandEach_eq_fill hf, fun w hw => bindings_expandEach_eq_fill (hf w hw)⟩
  · intro hi
    have hf : ∀ w : Value P, ∀ s ∈ t.slots, s.FilledAlike c w := by
      intro w s hs he
      exact absurd (he ▸ hs) hi
    constructor
    · rw [source_expandEach_eq_fill fun w _ => hf w]
      simp only [Template.fill_of_no_item hi, List.map_const']
    · rw [bindings_expandEach_eq_fill (hf v), Template.fill_of_no_item hi]

def itemsAroundHandle : Template :=
  ⟨[("", .item), ("(", .value (.handle ⟨⟨0⟩, some "f", .unit⟩)), (", ", .item),
    (", ", .value (.number .nan))], ")"⟩

def scalarDrivers : List Value :=
  [.number { Binary64.zero with negative := true }, .null,
    .number ⟨true, Binary64.infinity, Binary64.infinity_lt⟩]

def withoutItem : Template := ⟨[("x", .value (.handle ⟨⟨0⟩, none, .unit⟩))], ";"⟩

theorem expandEach_eq_filled_expansions_zeroAndInfinity :
    scalarDrivers ≠ [] ∧ (∀ w ∈ scalarDrivers, w.isScalar = true) ∧
      (({} : Config).expandEach scalarDrivers itemsAroundHandle).source =
        .join (scalarDrivers.map fun w => (({} : Config).expand (itemsAroundHandle.fill w)).source) ∧
      (∀ w ∈ scalarDrivers, (({} : Config).expandEach scalarDrivers itemsAroundHandle).bindings =
        (({} : Config).expand (itemsAroundHandle.fill w)).bindings) ∧
      Slot.item ∉ withoutItem.slots ∧
      (({} : Config).expandEach scalarDrivers withoutItem).source =
        .join (List.replicate 3 (({} : Config).expand withoutItem).source) ∧
      (({} : Config).expandEach scalarDrivers withoutItem).bindings =
        (({} : Config).expand withoutItem).bindings := by
  have hv : ∀ w ∈ scalarDrivers, w.isScalar = true := by decide
  have hi : Slot.item ∉ withoutItem.slots := by decide
  have hn : scalarDrivers ≠ [] := List.cons_ne_nil _ _
  have hf := (expandEach_eq_filled_expansions {} itemsAroundHandle hn).1 rfl hv
  have hr := (expandEach_eq_filled_expansions {} withoutItem hn).2 hi
  exact ⟨hn, hv, hf.1, hf.2, hi, hr.1, hr.2⟩

end Config

end Splice
