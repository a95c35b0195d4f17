import Splice.Proofs.FirstOccurrence
import Splice.Proofs.Segmentation

namespace Splice

variable {P : Type}

theorem Request.firsts_isPrefix (ps qs : List (Request P)) : firsts ps <+: firsts (ps ++ qs) := by
  induction qs using List.reverseRecOn with
  | nil => rw [List.append_nil]
  | append_singleton qs q ih =>
    rw [← List.append_assoc, firsts_append_singleton]
    exact ih.trans (List.prefix_append _ _)

theorem Slot.requests_isPrefix (c : Config) (driven : Bool) (ss rest : List (Slot P)) :
    requests c driven ss <+: requests c driven (ss ++ rest) := by
  rw [requests, requests, List.zipIdx_append, List.filterMap_append]
  exact List.prefix_append _ _

namespace Template

def take (k : Nat) (t : Template P) : Template P :=
  ⟨t.body.take k, (t.body[k]?.map Prod.fst).getD t.tail⟩

def append (t : Template P) (parts : List (Builder.Part P)) : Template P :=
  (Builder.addAll ⟨t.body.toArray, t.tail⟩ parts).build

/-- All slots of `t` come first, each after its literal, and the literal that follows them begins
with the last one of `t`. -/
def Continues (u t : Template P) : Prop :=
  ∃ (more : List (String × Slot P)) (text : String), u.body = t.body ++ more ∧
    (more.map Prod.fst ++ [u.tail]).head? = some (t.tail ++ text)

theorem slots_take (k : Nat) (t : Template P) : (t.take k).slots = t.slots.take k :=
  List.map_take

theorem literals_take (k : Nat) (t : Template P) :
    (t.take k).literals = t.literals.take (k + 1) := by
  obtain ⟨body, tail⟩ := t
  induction body generalizing k with
  | nil => simp [take, literals]
  | cons part body ih =>
    cases k with
    | zero => rfl
    | succ k => exact congrArg (part.1 :: ·) (ih k)

theorem ofParts_take (k : Nat) (t : Template P) :
    ofParts (t.literals.take (k + 1)) (t.slots.take k) = .ok (t.take k) := by
  rw [← literals_take, ← slots_take, ofParts, interleave?_parts]

example : (⟨[("a", .item), ("b", .item)], "c"⟩ : Template).take 1 = ⟨[("a", .item)], "b"⟩ := by
  decide

theorem continues_take (k : Nat) (t : Template P) : t.Continues (t.take k) := by
  refine ⟨t.body.drop k, "", (List.take_append_drop k t.body).symm, ?_⟩
  rw [String.append_empty, take]
  rcases Nat.lt_or_ge k t.body.length with h | h
  · simp [h]
  · simp [h]

theorem Continues.refl (t : Template P) : t.Continues t :=
  ⟨[], "", by simp, by simp⟩

theorem Continues.trans {s t u : Template P} (h : u.Continues t) (h' : t.Continues s) :
    u.Continues s := by
  obtain ⟨more, text, hb, hl⟩ := h
  obtain ⟨more', text', hb', hl'⟩ := h'
  cases more' with
  | nil =>
    -- `t` has the slots of `s`, so both texts are added to one literal
    have ht : t.tail = s.tail ++ text' := Option.some.inj hl'
    refine ⟨more, text' ++ text, ?_, ?_⟩
    · rw [hb, hb', List.append_nil]
    · rw [hl, ht, String.append_assoc]
  | cons part more' =>
    refine ⟨part :: more' ++ more, text', ?_, hl'⟩
    rw [hb, hb', List.append_assoc]

theorem continues_add (b : Builder P) (part : Builder.Part P) :
    (b.add part).build.Continues b.build := by
  have hs : ∀ s : Slot P, (b.slot s).build.Continues b.build :=
    fun s => ⟨[(b.current, s)], "", Array.toList_push, by simp [Builder.build]⟩
  cases part with
  | text s =>
    rw [Builder.add, Builder.text_eq]
    exact ⟨[], s, (List.append_nil _).symm, rfl⟩
  | slot s => exact hs s
  | item => exact hs .item

theorem continues_append (t : Template P) (parts : List (Builder.Part P)) :
    (t.append parts).Continues t := by
  have hb : ∀ b : Builder P, (b.addAll parts).build.Continues b.build := by
    induction parts with
    | nil => exact fun b => .refl b.build
    | cons part parts ih => exact fun b => (ih (b.add part)).trans (continues_add b part)
  exact hb ⟨t.body.toArray, t.tail⟩

variable {t u : Template P} (h : u.Continues t)

include h

theorem Continues.slots_eq : ∃ rest, u.slots = t.slots ++ rest := by
  obtain ⟨more, text, hb, -⟩ := h
  exact ⟨more.map Prod.snd, by rw [slots, hb, List.map_append, slots]⟩

theorem Continues.render_eq (c : Config) (key : Value P → String) (driver : Option (Value P)) :
    ∃ text, u.render c key driver = t.render c key driver ++ text := by
  obtain ⟨more, text, hb, hl⟩ := h
  rw [render, render, hb, List.map_append, String.join_append, String.append_assoc]
  cases more with
  | nil =>
    have hu : u.tail = t.tail ++ text := Option.some.inj hl
    exact ⟨text, by simp [hu, String.append_assoc]⟩
  | cons part more =>
    have hp : part.1 = t.tail ++ text := Option.some.inj hl
    refine ⟨text ++ part.2.text c key driver ++
      .join (more.map fun part => part.1 ++ part.2.text c key driver) ++ u.tail, ?_⟩
    simp [hp, String.append_assoc]

/-- The longer template asks for all that the shorter one asks for, before anything else. -/
theorem Continues.requests_eq (c : Config) (driven : Bool) :
    ∃ rest, u.requests c driven = t.requests c driven ++ rest := by
  obtain ⟨rest, hs⟩ := h.slots_eq
  obtain ⟨qs, hq⟩ := Slot.requests_isPrefix c driven t.slots rest
  exact ⟨qs, by rw [requests_eq_slots, requests_eq_slots, hs, hq]⟩

theorem Continues.extends_registry (c : Config) (driven : Bool) :
    (u.registry c driven).table.Extends (t.registry c driven).table := by
  obtain ⟨rest, hq⟩ := h.requests_eq c driven
  rw [registry, hq, Registry.recordAll_append]
  exact Registry.extends_recordAll _ rest

theorem Continues.toList_registry (c : Config) (driven : Bool) :
    (t.registry c driven).bindings.toList <+: (u.registry c driven).bindings.toList := by
  obtain ⟨rest, hq⟩ := h.requests_eq c driven
  rw [(t.records_registry c driven).entries, (u.records_registry c driven).entries, hq]
  exact Request.firsts_isPrefix _ rest

end Template

/-- An expansion with all text and all entries of another one, and what is new behind them. -/
structure Expansion.Continues (e d : Expansion P) : Prop where
  source : ∃ text, e.source = d.source ++ text
  entries : d.bindings.toList <+: e.bindings.toList
  get? : ∀ key v, d.bindings.get? key = some v → e.bindings.get? key = some v

namespace Config

/-- The keys may as well be read from a later table. -/
theorem source_expand_of_extends (c : Config) (t : Template P) {u : KeyTable}
    (hu : u.Extends (t.registry c false).table) :
    (c.expand t).source = t.render c u.keyOf none := by
  have hp : (({} : Draft P).pass c t none).table = (t.registry c false).table :=
    congrArg Registry.table (Draft.registry_pass {} c t none)
  rw [← hp] at hu
  exact (Draft.source_pass {} c t none hu).trans String.empty_append

theorem continues_expand {t u : Template P} (h : u.Continues t) (c : Config) :
    (c.expand u).Continues (c.expand t) := by
  have hb : (c.expand t).bindings.toList <+: (c.expand u).bindings.toList := by
    rw [bindings_expand, bindings_expand]
    exact h.toList_registry c false
  refine ⟨?_, hb, ?_⟩
  · obtain ⟨text, ht⟩ := h.render_eq c (u.registry c false).table.keyOf none
    refine ⟨text, ?_⟩
    rw [source_expand, ht, source_expand_of_extends c t (h.extends_registry c false)]
  · intro key v hv
    rw [Bindings.get?_eq_some_iff] at hv ⊢
    exact hb.subset hv

/-- The expansion of a template begins with that of each beginning of it, and goes on in it when
parts are added: text that is written stays, and entries keep their places, keys and values. -/
theorem expansion_prefix_stable (c : Config) (t : Template P) :
    (∀ k : Nat, Template.ofParts (t.literals.take (k + 1)) (t.slots.take k) = .ok (t.take k) ∧
      (c.expand t).Continues (c.expand (t.take k))) ∧
    ∀ parts : List (Builder.Part P), (c.expand (t.append parts)).Continues (c.expand t) :=
  ⟨fun k => ⟨t.ofParts_take k, continues_expand (t.continues_take k) c⟩,
    fun parts => continues_expand (t.continues_append parts) c⟩

end Config

end Splice
