import Mathlib.Data.List.Infix
import Splice.Proofs.FirstOccurrence
import Splice.Proofs.Numeral
import Splice.Proofs.Resolution

namespace Splice

variable {P : Type}

/-- The digits after each place of a text where `mark` occurs, as far as they reach. -/
def scan (mark : List Char) : List Char → List (List Char)
  | [] => []
  | c :: s =>
    match mark.isPrefixOf? (c :: s) with
    | some rest => rest.takeWhile Char.isDigit :: scan mark s
    | none => scan mark s

namespace Config

def accessMark (c : Config) : List Char := (c.accessText c.keyPrefix).toList

def keysRead (c : Config) (text : String) : List String :=
  (scan c.accessMark text.toList).map fun digits => c.keyPrefix ++ .ofList digits

def registering : Config :=
  { lookupVar := "ctx", keyPrefix := "$e_", inlinePrimitives := false }

theorem accessMark_registering :
    registering.accessMark = ['c', 't', 'x', '.', '$', 'e', '_'] := by decide

end Config

section

open Config

theorem scan_cons_of_miss {mark : List Char} {c : Char} {s : List Char}
    (h : ¬ mark <+: c :: s) : scan mark (c :: s) = scan mark s := by
  rw [scan]
  cases hp : mark.isPrefixOf? (c :: s) with
  | none => rfl
  | some rest => exact absurd ⟨rest, List.isPrefixOf?_eq_some_iff_append_eq.1 hp⟩ h

theorem scan_cons_of_hit {mark : List Char} {c : Char} {s rest : List Char}
    (h : mark ++ rest = c :: s) :
    scan mark (c :: s) = rest.takeWhile Char.isDigit :: scan mark s := by
  rw [scan, List.isPrefixOf?_eq_some_iff_append_eq.2 h]

/-- The mark has its dollar sign in the fifth place and does not repeat one. -/
theorem dollar_of_hit {s : List Char} (h : registering.accessMark <+: s) :
    s[4]? = some '$' := by
  obtain ⟨rest, rfl⟩ := h
  rw [accessMark_registering]
  rfl

theorem scan_of_no_dollar {s : List Char} (h : '$' ∉ s) : scan registering.accessMark s = [] := by
  induction s with
  | nil => rfl
  | cons c s ih =>
    have hp : ¬ registering.accessMark <+: c :: s :=
      fun hp => h (List.mem_of_getElem? (dollar_of_hit hp))
    rw [scan_cons_of_miss hp]
    exact ih fun hs => h (List.mem_cons_of_mem c hs)

/-- Nothing is found before an access: there is no dollar sign yet, and in the access itself it
comes too late. -/
theorem scan_before_access {s : List Char} (h : '$' ∉ s) (rest : List Char) :
    scan registering.accessMark (s ++ (registering.accessMark ++ rest)) =
      scan registering.accessMark (registering.accessMark ++ rest) := by
  induction s with
  | nil => rfl
  | cons c s ih =>
    have hp : ¬ registering.accessMark <+: c :: s ++ (registering.accessMark ++ rest) := by
      intro hp
      have hd := dollar_of_hit hp
      rw [accessMark_registering] at hd
      rcases s with _ | ⟨c₁, _ | ⟨c₂, _ | ⟨c₃, _ | ⟨c₄, s⟩⟩⟩⟩ <;> simp_all
    rw [List.cons_append, scan_cons_of_miss (by simpa using hp)]
    exact ih fun hs => h (List.mem_cons_of_mem c hs)

theorem scan_append_of_no_c {s : List Char} (h : 'c' ∉ s) (rest : List Char) :
    scan registering.accessMark (s ++ rest) = scan registering.accessMark rest := by
  induction s with
  | nil => rfl
  | cons c s ih =>
    have hp : ¬ registering.accessMark <+: c :: (s ++ rest) := by
      intro hp
      rw [accessMark_registering, List.cons_prefix_cons] at hp
      exact h (hp.1 ▸ List.mem_cons_self)
    rw [List.cons_append, scan_cons_of_miss hp]
    exact ih fun hs => h (List.mem_cons_of_mem c hs)

theorem scan_access {digits rest : List Char} (hd : ∀ d ∈ digits, d.isDigit = true)
    (hr : rest.head?.any Char.isDigit = false) :
    scan registering.accessMark (registering.accessMark ++ (digits ++ rest)) =
      digits :: scan registering.accessMark rest := by
  have hc : 'c' ∉ ['t', 'x', '.', '$', 'e', '_'] ++ digits := by
    intro hm
    rcases List.mem_append.1 hm with hm | hm
    · revert hm
      decide
    · exact absurd (hd 'c' hm) (by decide)
  have hs := scan_append_of_no_c hc rest
  have hm : registering.accessMark ++ (digits ++ rest) =
      'c' :: (['t', 'x', '.', '$', 'e', '_'] ++ digits ++ rest) := by
    rw [accessMark_registering]
    rfl
  rw [hm, scan_cons_of_hit hm, hs, takeWhile_isDigit_append hd hr]

end

namespace Template

open Config

theorem render_cons (c : Config) (key : Value P → String) (driver : Option (Value P))
    (part : String × Slot P) (body : List (String × Slot P)) (tail : String) :
    render c key driver ⟨part :: body, tail⟩ =
      part.1 ++ part.2.text c key driver ++ render c key driver ⟨body, tail⟩ := by
  simp [render, String.append_assoc]

theorem literals_cons (part : String × Slot P) (body : List (String × Slot P)) (tail : String) :
    literals ⟨part :: body, tail⟩ = part.1 :: literals ⟨body, tail⟩ := rfl

theorem registers_registering (s : Slot P) : s.registers registering false = true := by
  simp [Slot.registers, inlined?, registering]

theorem toList_text (num : Value P → Nat) (s : Slot P) :
    (s.text registering (fun v => registering.entryKey (num v)) none).toList =
      registering.accessMark ++ Nat.toDigits 10 (num s.toValue) := by
  rw [Slot.text_of_registers (registers_registering s)]
  simp [accessText, accessMark, entryKey, Nat.toList_repr]

theorem head?_render (num : Value P → Nat) {t : Template P}
    (h : ∀ literal ∈ t.literals, literal.toList.head?.any Char.isDigit = false) :
    (t.render registering (fun v => registering.entryKey (num v)) none).toList.head?.any
      Char.isDigit = false := by
  obtain ⟨body, tail⟩ := t
  cases body with
  | nil => simpa [render] using h tail (by simp [literals])
  | cons part body =>
    have hp := h part.1 (by simp [literals])
    rw [render_cons, String.toList_append, String.toList_append, toList_text,
      accessMark_registering]
    cases hl : part.1.toList with
    | nil => rfl
    | cons c l => simpa [hl] using hp

theorem scan_render (num : Value P → Nat) {t : Template P}
    (hd : ∀ literal ∈ t.literals, '$' ∉ literal.toList)
    (hn : ∀ literal ∈ t.literals.tail, literal.toList.head?.any Char.isDigit = false) :
    scan registering.accessMark
      (t.render registering (fun v => registering.entryKey (num v)) none).toList =
        t.slots.map fun s => Nat.toDigits 10 (num s.toValue) := by
  obtain ⟨body, tail⟩ := t
  induction body with
  | nil =>
    have ht := scan_of_no_dollar (hd tail (by simp [literals]))
    simpa [render, slots] using ht
  | cons part body ih =>
    rw [literals_cons] at hd hn
    have hr := head?_render num hn
    have hi := ih (fun literal hl => hd literal (List.mem_cons_of_mem _ hl))
      fun literal hl => hn literal (List.mem_of_mem_tail hl)
    have hg : ∀ d ∈ Nat.toDigits 10 (num part.2.toValue), d.isDigit = true :=
      fun d hm => Nat.isDigit_of_mem_toDigits (by decide) (by decide) hm
    rw [render_cons, String.toList_append, String.toList_append, toList_text, List.append_assoc,
      List.append_assoc, scan_before_access (hd part.1 List.mem_cons_self), scan_access hg hr, hi]
    rfl

theorem keysRead_expand {t : Template P} (hd : ∀ literal ∈ t.literals, '$' ∉ literal.toList)
    (hn : ∀ literal ∈ t.literals.tail, literal.toList.head?.any Char.isDigit = false) :
    registering.keysRead (registering.expand t).source =
      t.slots.map fun s => (t.registry registering false).table.keyOf s.toValue := by
  rw [source_expand]
  have hr := t.render_registry registering none
  simp only [Option.isSome_none] at hr
  rw [hr, keysRead, scan_render (t.first registering false) hd hn, List.map_map]
  apply List.map_congr_left
  intro s hs
  rw [keyOf_registry hs (registers_registering s), entryKey, Nat.repr_eq_ofList_toDigits]
  rfl

end Template

namespace Config

/-- The accesses can be read back from the text alone: one for each slot, in their order, each
leading to the argument of its slot, and all keys among them. -/
theorem accesses_read_back (t : Template P)
    (hd : ∀ literal ∈ t.literals, '$' ∉ literal.toList)
    (hn : ∀ literal ∈ t.literals.tail, literal.toList.head?.any Char.isDigit = false) :
    (registering.keysRead (registering.expand t).source).length = t.slotCount ∧
      (∀ (i : Nat) (s : Slot P), t.slots[i]? = some s →
        ∃ key v, (registering.keysRead (registering.expand t).source)[i]? = some key ∧
          (registering.expand t).bindings.get? key = some v ∧ v.same s.toValue = true) ∧
      ∀ key, (registering.expand t).bindings.contains key = true →
        key ∈ registering.keysRead (registering.expand t).source := by
  rw [Template.keysRead_expand hd hn, bindings_expand]
  refine ⟨?_, ?_, ?_⟩
  · simp [Template.slots, Template.slotCount]
  · intro i s hs
    obtain ⟨v, hb, hv⟩ := Template.get?_keyOf_registry (List.mem_of_getElem? hs)
      (Template.registers_registering s)
    exact ⟨_, v, by rw [List.getElem?_map, hs]; rfl, hb, hv⟩
  · intro key hk
    obtain ⟨s, hs, -, he⟩ := Template.slot_of_contains_registry hk
    exact List.mem_map.2 ⟨s, hs, he⟩

def touching : Template :=
  ⟨[("ctx.", .value (.handle ⟨⟨0⟩, none, .unit⟩)), ("", .value (.handle ⟨⟨1⟩, none, .unit⟩)),
    ("", .value (.handle ⟨⟨0⟩, some "f", .unit⟩))], ".10"⟩

theorem accesses_read_back_touching :
    (∀ literal ∈ touching.literals, '$' ∉ literal.toList) ∧
      (∀ literal ∈ touching.literals.tail, literal.toList.head?.any Char.isDigit = false) ∧
      (registering.keysRead (registering.expand touching).source).length = 3 ∧
      ∃ key v, (registering.keysRead (registering.expand touching).source)[2]? = some key ∧
        (registering.expand touching).bindings.get? key = some v ∧
        v.same (.handle ⟨⟨0⟩, some "f", .unit⟩) = true := by
  have hd : ∀ literal ∈ touching.literals, '$' ∉ literal.toList := by decide
  have hn : ∀ literal ∈ touching.literals.tail,
      literal.toList.head?.any Char.isDigit = false := by decide
  obtain ⟨hl, hs, -⟩ := accesses_read_back touching hd hn
  exact ⟨hd, hn, hl, hs 2 _ rfl⟩

end Config

end Splice
