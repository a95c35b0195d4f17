import Mathlib.Algebra.BigOperators.Group.List.Basic
import Mathlib.Algebra.Order.BigOperators.Group.List
import Splice.Proofs.Sameness
import Splice.Proofs.Passes

namespace Splice

variable {P : Type}

theorem utf8ByteSize_join (ss : List String) :
    (String.join ss).utf8ByteSize = (ss.map String.utf8ByteSize).sum := by
  induction ss with
  | nil => rfl
  | cons s ss ih =>
    rw [String.join_cons, String.utf8ByteSize_append, ih, List.map_cons, List.sum_cons]

theorem Binary64.text_ne_empty (x : Binary64) : x.text ≠ "" := by
  intro h
  cases hn : x.isNaN with
  | true =>
    rw [text_of_isNaN hn] at h
    exact absurd h (by decide)
  | false =>
    obtain hx | hi := isFinite_or_isInfinite hn
    · have hr := read?_text hx
      rw [h] at hr
      cases hr
    · have ht := toList_text_of_isInfinite hi
      rw [h] at ht
      exact List.append_ne_nil_of_right_ne_nil _ (by decide) ht.symm

theorem Value.literal_ne_empty {v : Value P} {l : String} (h : v.literal? = some l) : l ≠ "" := by
  rintro rfl
  cases v with
  | null => exact absurd (Option.some.inj h) (by decide)
  | bool b => exact absurd (Option.some.inj h) (by cases b <;> decide)
  | number x => exact x.text_ne_empty (literal?_number.1 h).2
  | string s =>
    have hq := congrArg String.toList (Option.some.inj h)
    rw [toList_quote] at hq
    cases hq
  | handle g => cases h

theorem Config.accessText_ne_empty (c : Config) (key : String) : c.accessText key ≠ "" := by
  rw [accessText, Ne, String.append_eq_empty_iff, String.append_eq_empty_iff]
  rintro ⟨⟨-, h⟩, -⟩
  exact absurd h (by decide)

namespace Slot

theorem text_eq_empty_iff (c : Config) (key : Value P → String) (driver : Option (Value P))
    (s : Slot P) :
    s.text c key driver = "" ↔ s = .item ∧ ∃ v, driver = some v ∧ v.display = "" := by
  have hv : ∀ v, (c.inlined? v).getD (c.accessText (key v)) ≠ "" := by
    intro v
    cases hl : c.inlined? v with
    | none => exact c.accessText_ne_empty _
    | some literal => exact Value.literal_ne_empty (Option.ite_none_right_eq_some.1 hl).2
  cases s with
  | value v => simpa [text, toValue] using hv v
  | item =>
    cases driver with
    | none => simpa [text] using hv _
    | some w => simp [text]

end Slot

namespace Template

def slotBytes (c : Config) (key : Value P → String) (driver : Option (Value P))
    (t : Template P) : Nat :=
  (t.slots.map fun s => (s.text c key driver).utf8ByteSize).sum

theorem literalLength_eq (t : Template P) :
    t.literalLength = (t.literals.map String.utf8ByteSize).sum := by
  rw [literalLength, List.sum_eq_foldl, List.foldl_map]

theorem utf8ByteSize_render (c : Config) (key : Value P → String) (driver : Option (Value P))
    (t : Template P) :
    (t.render c key driver).utf8ByteSize = t.literalLength + t.slotBytes c key driver := by
  rw [render, String.utf8ByteSize_append, utf8ByteSize_join, literalLength_eq, literals, slotBytes,
    slots, List.map_append, List.sum_append, List.map_map, List.map_map, List.map_map,
    List.map_singleton, List.sum_singleton, Nat.add_right_comm, ← List.sum_map_add]
  simp only [Function.comp_def, String.utf8ByteSize_append]

theorem slotBytes_eq_zero_iff (c : Config) (key : Value P → String) (driver : Option (Value P))
    (t : Template P) :
    t.slotBytes c key driver = 0 ↔
      ∀ s ∈ t.slots, s = .item ∧ ∃ v, driver = some v ∧ v.display = "" := by
  simp only [slotBytes, List.sum_eq_zero_iff, List.forall_mem_map, String.utf8ByteSize_eq_zero_iff,
    Slot.text_eq_empty_iff]

end Template

namespace Config

variable (c : Config) (t : Template P)

theorem utf8ByteSize_expand :
    (c.expand t).source.utf8ByteSize =
      t.literalLength + t.slotBytes c (t.registry c false).table.keyOf none := by
  rw [source_expand, Template.utf8ByteSize_render]

theorem utf8ByteSize_expandEach (vs : List (Value P)) :
    (c.expandEach vs t).source.utf8ByteSize = t.literalLength * vs.length +
      (vs.map fun v => t.slotBytes c (t.registry c true).table.keyOf (some v)).sum := by
  rw [source_expandEach, utf8ByteSize_join, List.map_map]
  simp only [Function.comp_def, Template.utf8ByteSize_render]
  rw [List.sum_map_add, List.map_const', List.sum_replicate_nat, Nat.mul_comm]

variable {c t}

theorem utf8ByteSize_expandEach_eq_iff {vs : List (Value P)} :
    (c.expandEach vs t).source.utf8ByteSize = t.literalLength * vs.length ↔
      ((∀ s ∈ t.slots, s = .item) ∧ ∀ v ∈ vs, v.display = "") ∨ t.slots = [] ∨ vs = [] := by
  rw [utf8ByteSize_expandEach, Nat.add_eq_left, List.sum_eq_zero_iff, List.forall_mem_map]
  simp only [Template.slotBytes_eq_zero_iff, Option.some.injEq, exists_eq_left']
  constructor
  · -- one driver tells that all slots are items, and one slot that no driver has a text
    intro h
    by_cases hs : t.slots = []
    · exact Or.inr (Or.inl hs)
    by_cases hv : vs = []
    · exact Or.inr (Or.inr hv)
    obtain ⟨s, hs⟩ := List.exists_mem_of_ne_nil _ hs
    obtain ⟨v, hv⟩ := List.exists_mem_of_ne_nil _ hv
    exact Or.inl ⟨fun u hu => (h v hv u hu).1, fun w hw => (h w hw s hs).2⟩
  · rintro (⟨hi, hd⟩ | hs | hv) v hvm s hsm
    · exact ⟨hi s hsm, hd v hvm⟩
    · rw [hs] at hsm
      cases hsm
    · rw [hv] at hvm
      cases hvm

/-- The literals of all passes take no more space than the text does, so that the product of their
length and the number of passes does not overflow where the bytes of the text can be counted. They are
all of the text only if no slot shows anything, and in a single expansion only if there is no slot. -/
theorem literals_fit_source (c : Config) (t : Template P) (vs : List (Value P)) :
    t.literalLength ≤ (c.expand t).source.utf8ByteSize ∧
    ((c.expand t).source.utf8ByteSize = t.literalLength ↔ t.slots = []) ∧
    t.literalLength * vs.length ≤ (c.expandEach vs t).source.utf8ByteSize ∧
    ((c.expandEach vs t).source.utf8ByteSize = t.literalLength * vs.length ↔
      ((∀ s ∈ t.slots, s = .item) ∧ ∀ v ∈ vs, v.display = "") ∨ t.slots = [] ∨ vs = []) ∧
    ∀ w, (c.expandEach vs t).source.utf8ByteSize < 2 ^ w →
      (BitVec.ofNat w t.literalLength * BitVec.ofNat w vs.length).toNat =
        t.literalLength * vs.length := by
  have hle : t.literalLength * vs.length ≤ (c.expandEach vs t).source.utf8ByteSize := by
    rw [utf8ByteSize_expandEach]
    exact Nat.le_add_right _ _
  refine ⟨?_, ?_, hle, utf8ByteSize_expandEach_eq_iff, ?_⟩
  · rw [utf8ByteSize_expand]
    exact Nat.le_add_right _ _
  · rw [utf8ByteSize_expand, Nat.add_eq_left, Template.slotBytes_eq_zero_iff,
      List.eq_nil_iff_forall_not_mem]
    simp
  · intro w hw
    rw [← BitVec.ofNat_mul, BitVec.toNat_ofNat, Nat.mod_eq_of_lt (hle.trans_lt hw)]

def accentedItems : Template := ⟨[("é", .item), ("", .item)], "."⟩

def silentDrivers : List Value := [.string "", .handle ⟨⟨0⟩, some "", .unit⟩]

theorem literals_fit_source_silentDrivers :
    (({} : Config).expandEach silentDrivers accentedItems).source.utf8ByteSize = 6 ∧
      (({} : Config).expandEach silentDrivers accentedItems).source.utf8ByteSize < 2 ^ 64 ∧
      (BitVec.ofNat 64 accentedItems.literalLength * BitVec.ofNat 64 silentDrivers.length).toNat =
        6 := by
  obtain ⟨-, -, -, hiff, hw⟩ := literals_fit_source {} accentedItems silentDrivers
  have hs := hiff.2 (Or.inl (by decide))
  have hl : accentedItems.literalLength * silentDrivers.length = 6 := by decide
  rw [hl] at hs
  have hlt := hs.trans_lt (by decide : 6 < 2 ^ 64)
  exact ⟨hs, hlt, (hw 64 hlt).trans hl⟩

end Config

end Splice
