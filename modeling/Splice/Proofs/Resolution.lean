import Splice.Proofs.Passes

namespace Splice

variable {P : Type}

/-- The source text is made pass by pass and slot by slot, an access reading the key that `key`
names for its argument. Each access leads to a value that is the same argument, and each key that
is bound is accessed. -/
structure Expansion.Resolved (c : Config) (t : Template P) (passes : List (Option (Value P)))
    (key : Value P → String) (e : Expansion P) : Prop where
  source_eq : e.source = .join (passes.map fun driver => t.render c key driver)
  bound : ∀ driver ∈ passes, ∀ s ∈ t.slots, s.registers c driver.isSome = true →
    ∃ v, e.bindings.get? (key s.toValue) = some v ∧ v.same s.toValue = true
  accessed : ∀ k, e.bindings.contains k = true → ∃ driver ∈ passes, ∃ s ∈ t.slots,
    s.registers c driver.isSome = true ∧ key s.toValue = k

namespace Template

theorem get?_keyOf_registry {c : Config} {driven : Bool} {t : Template P} {s : Slot P}
    (hs : s ∈ t.slots) (hr : s.registers c driven = true) :
    ∃ v, (t.registry c driven).bindings.get? ((t.registry c driven).table.keyOf s.toValue) =
      some v ∧ v.same s.toValue = true := by
  obtain ⟨i, hi⟩ := List.mem_iff_getElem?.1 hs
  have hq : (c.entryKey i, s.toValue) ∈ t.requests c driven :=
    mem_requests_iff.2 ⟨i, s, hi, hr, rfl⟩
  have h := t.records_registry c driven
  obtain ⟨key, hk⟩ := Option.isSome_iff_exists.1 (h.known _ hq)
  obtain ⟨v, hb, hv⟩ := h.keys_eq_some_iff.1 hk
  refine ⟨v, ?_, (Value.same_iff_identity_eq v s.toValue).2 hv⟩
  rw [(KeyTable.Extends.refl _).keyOf_eq hk]
  exact hb

theorem slot_of_contains_registry {c : Config} {driven : Bool} {t : Template P} {k : String}
    (h : (t.registry c driven).bindings.contains k = true) :
    ∃ s ∈ t.slots, s.registers c driven = true ∧
      (t.registry c driven).table.keyOf s.toValue = k := by
  have hr := t.records_registry c driven
  rw [Bindings.contains_eq, Option.isSome_iff_exists] at h
  obtain ⟨v, hv⟩ := h
  have hk : (t.registry c driven).table.key? v = some k :=
    hr.keys_eq_some_iff.2 ⟨v, hv, rfl⟩
  rw [Bindings.get?_eq_some_iff, hr.entries, Request.mem_firsts_iff] at hv
  obtain ⟨i, s, hs, hg, he⟩ := mem_requests_iff.1 (Request.mem_of_first? hv)
  rw [Prod.mk.injEq] at he
  refine ⟨s, List.mem_of_getElem? hs, hg, ?_⟩
  rw [← he.2]
  exact (KeyTable.Extends.refl _).keyOf_eq hk

end Template

theorem Draft.resolved_run (c : Config) (t : Template P) {driven : Bool}
    {passes : List (Option (Value P))} (hp : Uniform driven passes) :
    (run c t passes).finish.Resolved c t passes (t.registry c driven).table.keyOf := by
  have hs : (run c t passes).finish.source =
      .join (passes.map fun driver => t.render c (t.registry c driven).table.keyOf driver) :=
    source_run c t hp
  cases passes with
  | nil =>
    refine ⟨hs, ?_, ?_⟩
    · intro driver hd
      cases hd
    · intro k hk
      have he : Bindings.empty.contains k = true := hk
      rw [Bindings.contains_empty] at he
      cases he
  | cons driver passes =>
    have hb : (run c t (driver :: passes)).finish.bindings = (t.registry c driven).bindings :=
      bindings_run c t hp (List.cons_ne_nil driver passes)
    refine ⟨hs, ?_, ?_⟩
    · intro d hd s hm hg
      rw [hp d hd] at hg
      rw [hb]
      exact Template.get?_keyOf_registry hm hg
    · intro k hk
      rw [hb] at hk
      obtain ⟨s, hm, hg, he⟩ := Template.slot_of_contains_registry hk
      have hd : driver.isSome = driven := hp driver List.mem_cons_self
      exact ⟨driver, List.mem_cons_self, s, hm, by rw [hd]; exact hg, he⟩

/-- Every expansion is resolved, be it of a template or of a repeated one. -/
theorem Config.expansions_resolved (c : Config) (t : Template P) :
    (∃ key, (c.expand t).Resolved c t [none] key) ∧
      ∀ drivers : List (Value P),
        ∃ key, (c.expandEach drivers t).Resolved c t (drivers.map some) key := by
  constructor
  · exact ⟨_, Draft.resolved_run c t uniform_none⟩
  · intro drivers
    have h := Draft.resolved_run c t (uniform_some drivers)
    rw [← expandEach_eq_run] at h
    exact ⟨_, h⟩

end Splice
