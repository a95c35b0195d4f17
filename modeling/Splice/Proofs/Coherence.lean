import Splice.Proofs.Passes

namespace Splice

variable {P : Type}

namespace Registry

/-- Table and bindings are in bijection: an identity in the table goes to one key, which no other
identity has, and this key is bound to a value of that identity. -/
structure Coherent (r : Registry P) : Prop where
  exists_unique : ∀ id ∈ r.table.keys, ∃! key, r.table.keys[id]? = some key
  injective : ∀ (id₁ id₂ : Identity) (key : String),
    r.table.keys[id₁]? = some key → r.table.keys[id₂]? = some key → id₁ = id₂
  contains_iff : ∀ key : String,
    (∃ id : Identity, r.table.keys[id]? = some key) ↔ r.bindings.contains key = true
  identity_eq : ∀ (id : Identity) (key : String) (v : Value P),
    r.table.keys[id]? = some key → r.bindings.get? key = some v → v.identity = id
  size_eq : r.table.size = r.bindings.size

theorem Records.coherent {qs : List (Request P)} {r : Registry P} (h : Records qs r) :
    r.Coherent := by
  have hv : ∀ (id : Identity) (key : String) (v : Value P),
      r.table.keys[id]? = some key → r.bindings.get? key = some v → v.identity = id := by
    intro id key v hk hb
    obtain ⟨w, hw, hi⟩ := h.keys_eq_some_iff.1 hk
    rw [hb, Option.some.injEq] at hw
    rw [hw, hi]
  refine ⟨?_, ?_, ?_, hv, h.size⟩
  · intro id hid
    rw [Std.HashMap.mem_iff_isSome_getElem?, Option.isSome_iff_exists] at hid
    obtain ⟨key, hk⟩ := hid
    refine ⟨key, hk, ?_⟩
    intro key' hk'
    exact Option.some.inj (hk'.symm.trans hk)
  · intro id₁ id₂ key h₁ h₂
    obtain ⟨v, hb, hi⟩ := h.keys_eq_some_iff.1 h₁
    rw [← hi]
    exact hv id₂ key v h₂ hb
  · intro key
    rw [Bindings.contains_eq, Option.isSome_iff_exists]
    constructor
    · rintro ⟨id, hk⟩
      obtain ⟨v, hb, -⟩ := h.keys_eq_some_iff.1 hk
      exact ⟨v, hb⟩
    · rintro ⟨v, hb⟩
      exact ⟨v.identity, h.keys_eq_some_iff.2 ⟨v, hb, rfl⟩⟩

end Registry

namespace Draft

/-- The draft within a run: after whole passes and the first `n` segments of one more. -/
def during (c : Config) (t : Template P) (passes : List (Option (Value P)))
    (driver : Option (Value P)) (n : Nat) : Draft P :=
  (t.segments.take n).foldl (segment c driver) (run c t passes)

def asked (c : Config) (t : Template P) (passes : List (Option (Value P)))
    (driver : Option (Value P)) (n : Nat) : List (Request P) :=
  (passes.flatMap fun driver => t.requests c driver.isSome) ++
    (t.segments.take n).filterMap (Template.request? c driver.isSome)

theorem registry_during (c : Config) (t : Template P) (passes : List (Option (Value P)))
    (driver : Option (Value P)) (n : Nat) :
    (during c t passes driver n).registry = Registry.recordAll {} (asked c t passes driver n) := by
  rw [during, registry_segments, registry_run, ← Registry.recordAll_append, asked]

theorem slot_of_mem_asked {c : Config} {t : Template P} {passes : List (Option (Value P))}
    {driver : Option (Value P)} {n : Nat} {q : Request P} (h : q ∈ asked c t passes driver n) :
    ∃ i s, t.slots[i]? = some s ∧ q = (c.entryKey i, s.toValue) := by
  have hr : ∃ driven, q ∈ t.requests c driven := by
    rcases List.mem_append.1 h with h | h
    · obtain ⟨d, -, hq⟩ := List.mem_flatMap.1 h
      exact ⟨d.isSome, hq⟩
    · obtain ⟨seg, hm, hq⟩ := List.mem_filterMap.1 h
      exact ⟨driver.isSome, List.mem_filterMap.2 ⟨seg, List.mem_of_mem_take hm, hq⟩⟩
  obtain ⟨driven, hq⟩ := hr
  obtain ⟨i, s, hs, -, rfl⟩ := Template.mem_requests_iff.1 hq
  exact ⟨i, s, hs, rfl⟩

theorem records_during (c : Config) (t : Template P) (passes : List (Option (Value P)))
    (driver : Option (Value P)) (n : Nat) :
    (during c t passes driver n).registry.Records (asked c t passes driver n) := by
  rw [registry_during]
  apply Registry.records_recordAll
  exact Template.consistent_of_slots fun _ hq => slot_of_mem_asked hq

/-- However many passes have been made and wherever the next one stands, table and bindings are in
bijection, and the slot that comes next can only bind a key that is not bound yet. -/
theorem during_coherent (c : Config) (t : Template P) (passes : List (Option (Value P)))
    (driver : Option (Value P)) (n : Nat) :
    (during c t passes driver n).registry.Coherent ∧
      ∀ s key, t.slots[n]? = some s →
        ((during c t passes driver n).table.register s.toValue (c.entryKey n)).1 = .fresh key →
        ((during c t passes driver n).bindings.insert key s.toValue).1 = none := by
  have hd := records_during c t passes driver n
  refine ⟨hd.coherent, ?_⟩
  intro s key hs hf
  have hq : Request.Fits (asked c t passes driver n) (c.entryKey n, s.toValue) := by
    apply Request.Consistent.fits
    apply Template.consistent_of_slots
    intro q hq
    rcases List.mem_append.1 hq with hq | hq
    · exact slot_of_mem_asked hq
    · exact ⟨n, s, hs, List.mem_singleton.1 hq⟩
  cases hn : (during c t passes driver n).table.key? s.toValue with
  | some earlier => simp [KeyTable.register, hn] at hf
  | none =>
    have hk : c.entryKey n = key := by simpa [KeyTable.register, hn] using hf
    subst hk
    exact hd.get?_eq_none hq hn

def twoHandles : Template :=
  ⟨[("", .value (.handle ⟨⟨0⟩, none, .unit⟩)), (", ", .value (.handle ⟨⟨1⟩, none, .unit⟩))], ""⟩

theorem during_coherent_twoHandles :
    twoHandles.slots[1]? = some (.value (.handle ⟨⟨1⟩, none, .unit⟩)) ∧
      ((during {} twoHandles [] none 1).table.register
        (.handle ⟨⟨1⟩, none, Payload.unit⟩) "$e_1").1 = .fresh "$e_1" ∧
      ((during {} twoHandles [] none 1).bindings.insert "$e_1"
        (.handle ⟨⟨1⟩, none, .unit⟩)).1 = none := by
  have hn : (during {} twoHandles [] none 1).table.key?
      (.handle ⟨⟨1⟩, none, Payload.unit⟩) = none := by
    apply ((records_during {} twoHandles [] none 1).key?_eq _).trans
    decide
  have hf : ((during {} twoHandles [] none 1).table.register (.handle ⟨⟨1⟩, none, Payload.unit⟩)
      (({} : Config).entryKey 1)).1 = .fresh "$e_1" := by
    rw [KeyTable.register, hn]
    decide
  have hk : ({} : Config).entryKey 1 = "$e_1" := by decide
  refine ⟨rfl, ?_, ?_⟩
  · rw [← hf, hk]
  · exact (during_coherent {} twoHandles [] none 1).2 _ _ rfl hf

end Draft

end Splice
