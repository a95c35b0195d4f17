import Splice.Proofs.FirstOccurrence

namespace Splice

variable {P : Type}

/-- As many entries in both. Two entries at one position have the value of one slot, and keys that
consist of a prefix and the number of that slot. -/
structure Bindings.Renamed (p q : String) (ss : List (Slot P)) (a b : Bindings P) : Prop where
  size_eq : a.size = b.size
  same_slot : ∀ (i : Nat) (x y : String × Value P), a.toList[i]? = some x → b.toList[i]? = some y →
    ∃ (n : Nat) (s : Slot P), ss[n]? = some s ∧ x.2 = s.toValue ∧ y.2 = s.toValue ∧
      x.1 = p ++ Nat.repr n ∧ y.1 = q ++ Nat.repr n

section

variable {c d : Config} (h : c.inlinePrimitives = d.inlinePrimitives)

include h

theorem Slot.registers_congr (driven : Bool) (s : Slot P) :
    s.registers c driven = s.registers d driven := by
  simp only [registers, Config.inlined?, h]

theorem Slot.firstIn_congr (driven : Bool) (ss : List (Slot P)) (id : Identity) :
    firstIn c driven ss id = firstIn d driven ss id := by
  simp only [firstIn, registers_congr h]

theorem Slot.firsts_congr (driven : Bool) (ss : List (Slot P)) :
    firsts c driven ss = firsts d driven ss := by
  apply List.filter_congr
  intro part _
  rw [registers_congr h, firstIn_congr h]

end

theorem Slot.getElem?_of_mem_firsts {c : Config} {driven : Bool} {ss : List (Slot P)}
    {part : Slot P × Nat} (hp : part ∈ firsts c driven ss) : ss[part.2]? = some part.1 :=
  List.mem_zipIdx_iff_getElem?.1 (List.mem_filter.1 hp).1

theorem Template.toList_registry_eq_map (c : Config) (driven : Bool) (t : Template P) :
    (t.registry c driven).bindings.toList =
      (Slot.firsts c driven t.slots).map fun part => (c.entryKey part.2, part.1.toValue) := by
  rw [(t.records_registry c driven).entries, requests_eq_slots, Slot.firsts_requests]

theorem Bindings.Renamed.of_map {c d : Config} {ss : List (Slot P)} {a b : Bindings P}
    {parts : List (Slot P × Nat)} (hp : ∀ part ∈ parts, ss[part.2]? = some part.1)
    (ha : a.toList = parts.map fun part => (c.entryKey part.2, part.1.toValue))
    (hb : b.toList = parts.map fun part => (d.entryKey part.2, part.1.toValue)) :
    Renamed c.keyPrefix d.keyPrefix ss a b := by
  constructor
  · have hl : a.toList.length = b.toList.length := by rw [ha, hb, List.length_map, List.length_map]
    exact hl
  · intro i x y hx hy
    rw [ha, List.getElem?_map] at hx
    obtain ⟨part, hi, rfl⟩ := Option.map_eq_some_iff.1 hx
    rw [hb, List.getElem?_map, hi] at hy
    obtain rfl := Option.some.inj hy
    exact ⟨part.2, part.1, hp part (List.mem_of_getElem? hi), rfl, rfl, rfl, rfl⟩

/-- What one pass registers, for two configurations and two templates that have only the slots and
the choice to inline in common. -/
theorem Template.renamed_registry {c d : Config} (h : c.inlinePrimitives = d.inlinePrimitives)
    {t u : Template P} (hs : t.slots = u.slots) (driven : Bool) :
    Bindings.Renamed c.keyPrefix d.keyPrefix t.slots (t.registry c driven).bindings
      (u.registry d driven).bindings := by
  have hu := u.toList_registry_eq_map d driven
  rw [← hs, ← Slot.firsts_congr h] at hu
  exact .of_map (fun _ hp => Slot.getElem?_of_mem_firsts hp) (t.toList_registry_eq_map c driven) hu

namespace Config

/-- Literals, the lookup variable and the drivers have no influence on what is bound or in which
order, and the prefix of the keys only renames them. -/
theorem bindings_insulated_from_text (c d : Config) (h : c.inlinePrimitives = d.inlinePrimitives)
    (t u : Template P) (hs : t.slots = u.slots) :
    Bindings.Renamed c.keyPrefix d.keyPrefix t.slots (c.expand t).bindings (d.expand u).bindings ∧
      ∀ (v w : Value P) (vs ws : List (Value P)), Bindings.Renamed c.keyPrefix d.keyPrefix t.slots
        (c.expandEach (v :: vs) t).bindings (d.expandEach (w :: ws) u).bindings := by
  constructor
  · rw [bindings_expand, bindings_expand]
    exact Template.renamed_registry h hs false
  · intro v w vs ws
    rw [bindings_expandEach_cons, bindings_expandEach_cons]
    exact Template.renamed_registry h hs true

def fourSlots (text : String) : Template :=
  ⟨[(text, .item), (text, .value (.handle ⟨⟨0⟩, none, .unit⟩)), (text, .value (.number .nan)),
    (text, .value (.handle ⟨⟨0⟩, none, .unit⟩))], text⟩

theorem bindings_insulated_from_text_fourSlots :
    (⟨"x", "", true⟩ : Config).inlinePrimitives = (⟨"", "k1", true⟩ : Config).inlinePrimitives ∧
      (fourSlots "").slots = (fourSlots "$").slots ∧
      Bindings.Renamed "" "k1" (fourSlots "").slots
        ((⟨"x", "", true⟩ : Config).expand (fourSlots "")).bindings
        ((⟨"", "k1", true⟩ : Config).expand (fourSlots "$")).bindings ∧
      Bindings.Renamed "" "k1" (fourSlots "").slots
        ((⟨"x", "", true⟩ : Config).expandEach [.null] (fourSlots "")).bindings
        ((⟨"", "k1", true⟩ : Config).expandEach [.string "d", .null] (fourSlots "$")).bindings := by
  have h := bindings_insulated_from_text ⟨"x", "", true⟩ ⟨"", "k1", true⟩ rfl
    (fourSlots "") (fourSlots "$") rfl
  exact ⟨rfl, rfl, h.1, h.2 .null (.string "d") [] [.null]⟩

end Config

end Splice
