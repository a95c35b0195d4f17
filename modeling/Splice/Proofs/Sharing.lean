import Mathlib.Data.List.Forall2
import Splice.Proofs.FirstOccurrence

namespace Splice

variable {P : Type}

namespace Slot

inductive Alike : Slot P → Slot P → Prop where
  | item : Alike .item .item
  | primitive {v w : Value P} (hv : v.isPrimitive = true) (hw : w.isPrimitive = true)
    (h : v.same w = true) : Alike (.value v) (.value w)
  | handle (g h : Handle P) : Alike (.value (.handle g)) (.value (.handle h))

end Slot

/-- The literals are those of the other, the slots are alike one by one, and two handles of one
template share an allocation exactly if the two handles in the same slots of the other do. -/
structure Template.Alike (t u : Template P) : Prop where
  literals_eq : t.literals = u.literals
  slotCount_eq : t.slotCount = u.slotCount
  slot_alike : ∀ (i : Nat) (r s : Slot P), t.slots[i]? = some r → u.slots[i]? = some s → r.Alike s
  sharing : ∀ (i j : Nat) (g₁ g₂ h₁ h₂ : Handle P),
    t.slots[i]? = some (.value (.handle g₁)) → u.slots[i]? = some (.value (.handle h₁)) →
    t.slots[j]? = some (.value (.handle g₂)) → u.slots[j]? = some (.value (.handle h₂)) →
    (g₁.shares g₂ = true ↔ h₁.shares h₂ = true)

/-- One text and the same keys, each bound in both to the value of one slot. -/
structure Expansion.Lockstep (t u : Template P) (d e : Expansion P) : Prop where
  source_eq : d.source = e.source
  keys_eq : d.bindings.keys = e.bindings.keys
  same_slot : ∀ (key : String) (v w : Value P), d.bindings.get? key = some v →
    e.bindings.get? key = some w → ∃ (i : Nat) (r s : Slot P), t.slots[i]? = some r ∧
      u.slots[i]? = some s ∧ v = r.toValue ∧ w = s.toValue

namespace Value

theorem identity_ne_handle {v : Value P} (h : v.isPrimitive = true) (id : HandleId) :
    v.identity ≠ .handle id := by
  cases v <;> simp_all [isPrimitive, identity]

end Value

namespace Slot

variable {r s : Slot P}

theorem identity_handle (g : Handle P) :
    (Slot.value (.handle g)).toValue.identity = .handle g.id := rfl

theorem Alike.primitive_or_handle (h : r.Alike s) :
    (r.toValue.isPrimitive = true ∧ r.toValue.identity = s.toValue.identity) ∨
      ∃ g g', r = .value (.handle g) ∧ s = .value (.handle g') := by
  cases h with
  | item => exact .inl ⟨rfl, rfl⟩
  | primitive hv hw h => exact .inl ⟨hv, (Value.same_iff_identity_eq _ _).1 h⟩
  | handle g g' => exact .inr ⟨g, g', rfl, rfl⟩

theorem Alike.inlined?_eq (h : r.Alike s) (c : Config) :
    c.inlined? r.toValue = c.inlined? s.toValue := by
  have hl : r.toValue.literal? = s.toValue.literal? := by
    rcases h.primitive_or_handle with ⟨-, hi⟩ | ⟨g, g', rfl, rfl⟩
    · exact Value.literal?_congr hi
    · rfl
  rw [Config.inlined?, Config.inlined?, hl]

theorem Alike.isItem_eq (h : r.Alike s) : r.isItem = s.isItem := by
  cases h <;> rfl

theorem Alike.registers_eq (h : r.Alike s) (c : Config) (driven : Bool) :
    r.registers c driven = s.registers c driven := by
  simp only [registers, h.isItem_eq, h.inlined?_eq c]

theorem Alike.text_eq (h : r.Alike s) (c : Config) {f g : Value P → String}
    (hk : f r.toValue = g s.toValue) (driver : Option (Value P)) :
    r.text c f driver = s.text c g driver := by
  have hi := h.inlined?_eq c
  cases h with
  | item => cases driver <;> simp_all [text]
  | primitive hv hw h => simp_all [text, toValue]
  | handle g g' => simp_all [text, toValue]

end Slot

namespace Template

variable {t u : Template P}

theorem Alike.same_eq (h : t.Alike u) {i j : Nat} {r₁ r₂ s₁ s₂ : Slot P}
    (hr₁ : t.slots[i]? = some r₁) (hs₁ : u.slots[i]? = some s₁) (hr₂ : t.slots[j]? = some r₂)
    (hs₂ : u.slots[j]? = some s₂) : r₁.toValue.same r₂.toValue = s₁.toValue.same s₂.toValue := by
  simp only [Request.same_eq_decide, decide_eq_decide]
  rcases (h.slot_alike i r₁ s₁ hr₁ hs₁).primitive_or_handle with ⟨hp₁, hi₁⟩ | ⟨g₁, h₁, rfl, rfl⟩
  · rcases (h.slot_alike j r₂ s₂ hr₂ hs₂).primitive_or_handle with ⟨hp₂, hi₂⟩ | ⟨g₂, h₂, rfl, rfl⟩
    · rw [hi₁, hi₂]
    · have hn := Value.identity_ne_handle hp₁
      simp only [Slot.identity_handle, ← hi₁, hn]
  · rcases (h.slot_alike j r₂ s₂ hr₂ hs₂).primitive_or_handle with ⟨hp₂, hi₂⟩ | ⟨g₂, h₂, rfl, rfl⟩
    · have hn := fun id => (Value.identity_ne_handle hp₂ id).symm
      simp only [Slot.identity_handle, ← hi₂, hn]
    · have hg := h.sharing i j g₁ g₂ h₁ h₂ hr₁ hs₁ hr₂ hs₂
      simpa [Slot.identity_handle, Handle.shares] using hg

theorem Alike.length_eq (h : t.Alike u) : t.slots.length = u.slots.length := by
  simpa [Template.slots, slotCount] using h.slotCount_eq

theorem Alike.first_eq (h : t.Alike u) (c : Config) (driven : Bool) {j : Nat} {r s : Slot P}
    (hr : t.slots[j]? = some r) (hs : u.slots[j]? = some s) :
    t.first c driven r.toValue = u.first c driven s.toValue := by
  have hm : t.slots.map (fun x => x.registers c driven && x.toValue.same r.toValue) =
      u.slots.map fun y => y.registers c driven && y.toValue.same s.toValue := by
    apply List.ext_getElem
    · simpa using h.length_eq
    · intro i hi₁ hi₂
      have hx := List.getElem?_eq_getElem (l := t.slots) (i := i) (by simpa using hi₁)
      have hy := List.getElem?_eq_getElem (l := u.slots) (i := i) (by simpa using hi₂)
      simp only [List.getElem_map]
      rw [(h.slot_alike i _ _ hx hy).registers_eq c driven, h.same_eq hx hy hr hs]
  have hf := congrArg (List.findIdx id) hm
  rw [List.findIdx_map, List.findIdx_map] at hf
  exact hf

theorem Alike.render_eq (h : t.Alike u) (c : Config) {f g : Value P → String}
    (hk : ∀ (i : Nat) (r s : Slot P), t.slots[i]? = some r → u.slots[i]? = some s →
      f r.toValue = g s.toValue) (driver : Option (Value P)) :
    t.render c f driver = u.render c g driver := by
  have hl := h.literals_eq
  simp only [literals] at hl
  obtain ⟨hb, ht⟩ := List.append_inj' hl rfl
  have hm : (t.body.map fun part => part.1 ++ part.2.text c f driver) =
      u.body.map fun part => part.1 ++ part.2.text c g driver := by
    apply List.ext_getElem
    · simpa [slotCount] using h.slotCount_eq
    · intro i hi₁ hi₂
      rw [List.length_map] at hi₁ hi₂
      have hr : t.slots[i]? = some t.body[i].2 := by simp [slots, hi₁]
      have hs : u.slots[i]? = some u.body[i].2 := by simp [slots, hi₂]
      have hi : t.body[i].1 = u.body[i].1 := by
        have hg := congrArg (fun l => l[i]?) hb
        simpa [hi₁, hi₂] using hg
      rw [List.getElem_map, List.getElem_map, hi,
        (h.slot_alike i _ _ hr hs).text_eq c (hk i _ _ hr hs)]
  rw [render, render, hm, List.singleton_inj.1 ht]

/-- An entry of `t` and one of `u` with one key, the values those of one slot. -/
def Paired (t u : Template P) (d e : String × Value P) : Prop :=
  d.1 = e.1 ∧ ∃ (i : Nat) (r s : Slot P), t.slots[i]? = some r ∧ u.slots[i]? = some s ∧
    d.2 = r.toValue ∧ e.2 = s.toValue

theorem Alike.entries_paired (h : t.Alike u) (c : Config) (driven : Bool) :
    List.Forall₂ (Paired t u) (t.entries c driven) (u.entries c driven) := by
  let R : Slot P × Nat → Slot P × Nat → Prop := fun p q =>
    p.2 = q.2 ∧ t.slots[p.2]? = some p.1 ∧ u.slots[q.2]? = some q.1
  have hz : List.Forall₂ R t.slots.zipIdx u.slots.zipIdx := by
    apply List.forall₂_of_length_eq_of_get
    · simpa using h.length_eq
    · intro i hi₁ hi₂
      rw [List.length_zipIdx] at hi₁ hi₂
      simp [R, hi₁, hi₂]
  have hf := List.rel_filter (R := R)
    (p := fun p => p.1.registers c driven && decide (t.first c driven p.1.toValue = p.2))
    (q := fun q => q.1.registers c driven && decide (u.first c driven q.1.toValue = q.2))
    (by
      intro p q hpq
      obtain ⟨he, hp, hq⟩ := hpq
      rw [← he] at hq
      simp only [(h.slot_alike _ _ _ hp hq).registers_eq c driven, h.first_eq c driven hp hq, he])
    hz
  rw [entries, entries, List.forall₂_map_left_iff, List.forall₂_map_right_iff]
  apply hf.imp
  intro p q hpq
  obtain ⟨he, hp, hq⟩ := hpq
  rw [← he] at hq
  exact ⟨by rw [he], p.2, p.1, q.1, hp, hq, rfl, rfl⟩

/-- What one pass registers and writes is the same for both, up to the values. -/
theorem Alike.registry_paired (h : t.Alike u) (c : Config) (driven : Bool) :
    List.Forall₂ (Paired t u) (t.registry c driven).bindings.toList
      (u.registry c driven).bindings.toList := by
  rw [toList_registry, toList_registry]
  exact h.entries_paired c driven

theorem Alike.render_registry_eq (h : t.Alike u) (c : Config) (driver : Option (Value P)) :
    t.render c (t.registry c driver.isSome).table.keyOf driver =
      u.render c (u.registry c driver.isSome).table.keyOf driver := by
  rw [render_registry, render_registry]
  apply h.render_eq
  intro i r s hr hs
  rw [h.first_eq c driver.isSome hr hs]

end Template

section

variable {t u : Template P}

theorem Template.Alike.run_paired (h : t.Alike u) (c : Config) {driven : Bool}
    {passes : List (Option (Value P))} (hp : Uniform driven passes) :
    (Draft.run c t passes).source = (Draft.run c u passes).source ∧
      List.Forall₂ (Paired t u) (Draft.run c t passes).bindings.toList
        (Draft.run c u passes).bindings.toList := by
  constructor
  · have hm : passes.map (t.render c (t.registry c driven).table.keyOf) =
        passes.map (u.render c (u.registry c driven).table.keyOf) := by
      apply List.map_congr_left
      intro driver hd
      rw [← hp driver hd]
      exact h.render_registry_eq c driver
    rw [Draft.source_run c t hp, Draft.source_run c u hp, hm]
  · by_cases hn : passes = []
    · subst hn
      exact .nil
    · rw [Draft.bindings_run c t hp hn, Draft.bindings_run c u hp hn]
      exact h.registry_paired c driven

theorem Expansion.Lockstep.of_paired {d e : Expansion P} (hs : d.source = e.source)
    (hb : List.Forall₂ (Template.Paired t u) d.bindings.toList e.bindings.toList) :
    Lockstep t u d e := by
  refine ⟨hs, ?_, ?_⟩
  · rw [Bindings.keys, Bindings.keys, ← List.forall₂_eq_eq_eq, List.forall₂_map_left_iff,
      List.forall₂_map_right_iff]
    exact hb.imp fun _ _ hp => hp.1
  · intro key v w hv hw
    obtain ⟨i, hi, he⟩ := List.mem_iff_getElem.1 (Bindings.get?_eq_some_iff.1 hv)
    have hl : i < e.bindings.toList.length := by rwa [← hb.length_eq]
    obtain ⟨hk, j, r, s, hr, hs, hx, hy⟩ := hb.get hi hl
    simp only [List.get_eq_getElem, he] at hk hx hy
    have hm : (key, e.bindings.toList[i].2) ∈ e.bindings.toList := by
      rw [hk]
      exact List.getElem_mem hl
    rw [← Bindings.get?_eq_some_iff, hw, Option.some.injEq] at hm
    exact ⟨j, r, s, hr, hs, hx, by rw [hm, hy]⟩

theorem isEqv_iff_forall₂ {α : Type} (eqv : α → α → Bool) (xs ys : List α) :
    xs.isEqv ys eqv = true ↔ List.Forall₂ (fun x y => eqv x y = true) xs ys := by
  induction xs generalizing ys with
  | nil => cases ys <;> simp
  | cons x xs ih => cases ys <;> simp [List.isEqv, ih]

theorem Value.same_of_equals {v w : Value P} (h : v.equals w = true) : v.same w = true := by
  cases v <;> cases w <;> simp_all [equals, same]

theorem Slot.toValue_equals {r s : Slot P} (h : r.equals s = true) :
    r.toValue.equals s.toValue = true := by
  cases r <;> cases s <;> simp_all [equals, toValue, Value.equals]

theorem Slot.alike_of_equals {r s : Slot P} (h : r.equals s = true) : r.Alike s := by
  cases r with
  | item =>
    cases s with
    | item => exact .item
    | value w => cases h
  | value v =>
    cases s with
    | item => cases h
    | value w =>
      have hs := Value.same_of_equals h
      cases v <;> cases w <;>
        first | exact .handle _ _ | exact .primitive rfl rfl hs | cases h

namespace Template

theorem slots_equals (h : t.equals u = true) :
    List.Forall₂ (fun r s => r.equals s = true) t.slots u.slots := by
  rw [equals, Bool.and_eq_true, isEqv_iff_forall₂] at h
  exact h.2

theorem slot_equals (h : t.equals u = true) {i : Nat} {r s : Slot P} (hr : t.slots[i]? = some r)
    (hs : u.slots[i]? = some s) : r.equals s = true := by
  obtain ⟨hi, rfl⟩ := List.getElem?_eq_some_iff.1 hr
  obtain ⟨hj, rfl⟩ := List.getElem?_eq_some_iff.1 hs
  exact (slots_equals h).get hi hj

theorem alike_of_equals (h : t.equals u = true) : t.Alike u := by
  have hl := h
  rw [equals, Bool.and_eq_true, beq_iff_eq] at hl
  refine ⟨hl.1, ?_, ?_, ?_⟩
  · simpa [slotCount, slots] using (slots_equals h).length_eq
  · intro i r s hr hs
    exact Slot.alike_of_equals (slot_equals h hr hs)
  · intro i j g₁ g₂ h₁ h₂ hr₁ hs₁ hr₂ hs₂
    have e₁ := slot_equals h hr₁ hs₁
    have e₂ := slot_equals h hr₂ hs₂
    simp only [Slot.equals, Value.equals, Handle.shares, decide_eq_true_eq] at e₁ e₂
    simp only [Handle.shares, decide_eq_true_eq, e₁, e₂]

end Template

theorem Expansion.equals_of_paired {d e : Expansion P} (h : t.equals u = true)
    (hs : d.source = e.source)
    (hb : List.Forall₂ (Template.Paired t u) d.bindings.toList e.bindings.toList) :
    d.equals e = true := by
  rw [equals, Bool.and_eq_true, beq_iff_eq, Bindings.equals, isEqv_iff_forall₂]
  refine ⟨hs, hb.imp ?_⟩
  intro x y hp
  obtain ⟨hk, i, r, s, hr, hu, hx, hy⟩ := hp
  have hv := Slot.toValue_equals (Template.slot_equals h hr hu)
  rw [← hx, ← hy] at hv
  simp [hk, hv]

theorem Template.Alike.lockstep_run (h : t.Alike u) (c : Config) {driven : Bool}
    {passes : List (Option (Value P))} (hp : Uniform driven passes) :
    Expansion.Lockstep t u (Draft.run c t passes).finish (Draft.run c u passes).finish := by
  obtain ⟨hs, hb⟩ := h.run_paired c hp
  exact .of_paired hs hb

theorem Template.run_equals (h : t.equals u = true) (c : Config) {driven : Bool}
    {passes : List (Option (Value P))} (hp : Uniform driven passes) :
    (Draft.run c t passes).finish.equals (Draft.run c u passes).finish = true := by
  obtain ⟨hs, hb⟩ := (alike_of_equals h).run_paired c hp
  exact Expansion.equals_of_paired h hs hb

end

namespace Config

/-- The text and the keys of an expansion depend on its handles only through the slots that share
them. -/
theorem expansion_depends_on_sharing (c : Config) (t u : Template P) :
    (t.Alike u → Expansion.Lockstep t u (c.expand t) (c.expand u) ∧
      ∀ drivers : List (Value P),
        Expansion.Lockstep t u (c.expandEach drivers t) (c.expandEach drivers u)) ∧
    (t.equals u = true → (c.expand t).equals (c.expand u) = true ∧
      ∀ drivers : List (Value P),
        (c.expandEach drivers t).equals (c.expandEach drivers u) = true) := by
  simp only [expand_eq_run, expandEach_eq_run]
  constructor
  · intro h
    exact ⟨h.lockstep_run c uniform_none, fun drivers => h.lockstep_run c (uniform_some drivers)⟩
  · intro h
    exact ⟨Template.run_equals h c uniform_none,
      fun drivers => Template.run_equals h c (uniform_some drivers)⟩

def threeHandles (a b : HandleId) (label : Option String) (x : Binary64) : Template :=
  ⟨[("", .value (.handle ⟨a, none, .unit⟩)), (", ", .value (.handle ⟨b, none, .int 1⟩)),
    (", ", .value (.handle ⟨a, label, .unit⟩)), (", ", .value (.number x))], ""⟩

theorem expansion_depends_on_sharing_threeHandles :
    (threeHandles ⟨0⟩ ⟨1⟩ none .zero).Alike
        (threeHandles ⟨7⟩ ⟨3⟩ (some "f") ⟨true, 0, by decide⟩) ∧
      Expansion.Lockstep (threeHandles ⟨0⟩ ⟨1⟩ none .zero)
        (threeHandles ⟨7⟩ ⟨3⟩ (some "f") ⟨true, 0, by decide⟩)
        (({} : Config).expand (threeHandles ⟨0⟩ ⟨1⟩ none .zero))
        (({} : Config).expand (threeHandles ⟨7⟩ ⟨3⟩ (some "f") ⟨true, 0, by decide⟩)) ∧
      (threeHandles ⟨0⟩ ⟨1⟩ none .zero).equals
        (threeHandles ⟨0⟩ ⟨1⟩ (some "f") ⟨true, 0, by decide⟩) = true ∧
      (({} : Config).expand (threeHandles ⟨0⟩ ⟨1⟩ none .zero)).equals
        (({} : Config).expand (threeHandles ⟨0⟩ ⟨1⟩ (some "f") ⟨true, 0, by decide⟩)) = true := by
  have ha : (threeHandles ⟨0⟩ ⟨1⟩ none .zero).Alike
      (threeHandles ⟨7⟩ ⟨3⟩ (some "f") ⟨true, 0, by decide⟩) := by
    refine ⟨rfl, rfl, ?_, ?_⟩
    · intro i r s hr hs
      rcases i with _ | _ | _ | _ | i
      · cases hr; cases hs; exact .handle _ _
      · cases hr; cases hs; exact .handle _ _
      · cases hr; cases hs; exact .handle _ _
      · cases hr; cases hs; exact .primitive rfl rfl (by decide)
      · cases hr
    · intro i j g₁ g₂ h₁ h₂ hr₁ hs₁ hr₂ hs₂
      rcases i with _ | _ | _ | _ | i <;> rcases j with _ | _ | _ | _ | j <;>
        cases hr₁ <;> cases hs₁ <;> cases hr₂ <;> cases hs₂ <;> decide
  have he : (threeHandles ⟨0⟩ ⟨1⟩ none .zero).equals
      (threeHandles ⟨0⟩ ⟨1⟩ (some "f") ⟨true, 0, by decide⟩) = true := by decide
  exact ⟨ha, ((expansion_depends_on_sharing {} _ _).1 ha).1, he,
    ((expansion_depends_on_sharing {} _ _).2 he).1⟩

end Config

end Splice
