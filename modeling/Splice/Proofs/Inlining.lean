import Splice.Proofs.Coherence
import Splice.Proofs.FirstOccurrence

namespace Splice

variable {P : Type}

namespace Value

def isInlinable : Value P → Bool
  | .null | .bool _ | .string _ => true
  | .number x => !x.isNaN
  | .handle _ => false

def isNaN : Value P → Bool
  | .number x => x.isNaN
  | _ => false

def isHandleTo (id : HandleId) : Value P → Bool
  | .handle h => decide (h.id = id)
  | _ => false

theorem isSome_literal? (v : Value P) : v.literal?.isSome = v.isInlinable := by
  cases v with
  | number x => cases h : x.isNaN <;> simp [literal?, isInlinable, h]
  | _ => rfl

theorem isInlinable_congr {v w : Value P} (h : v.identity = w.identity) :
    v.isInlinable = w.isInlinable := by
  rw [← isSome_literal?, ← isSome_literal?, literal?_congr h]

theorem isNaN_or_not_isPrimitive {v : Value P} (h : v.isInlinable = false) :
    v.isNaN = true ∨ v.isPrimitive = false := by
  cases v <;> simp_all [isInlinable, isNaN, isPrimitive]

theorem isNaN_eq_decide (v : Value P) : v.isNaN = decide (v.identity = .number .nan) := by
  cases v with
  | number x =>
    cases h : x.isNaN with
    | true => simp [isNaN, identity, Binary64.canonical, h]
    | false =>
      have hc : x.canonical ≠ .nan := by
        intro hc
        rw [← Binary64.isNaN_canonical, hc, Binary64.isNaN_nan] at h
        cases h
      simp [isNaN, identity, h, hc]
  | _ => simp [isNaN, identity]

theorem isHandleTo_eq_decide (id : HandleId) (v : Value P) :
    v.isHandleTo id = decide (v.identity = .handle id) := by
  cases v <;> simp [isHandleTo, identity]

theorem isInlinable_of_isHandleTo {id : HandleId} {v : Value P} (h : v.isHandleTo id = true) :
    v.isInlinable = false := by
  cases v <;> simp_all [isHandleTo, isInlinable]

end Value

def Config.inlining (c : Config) (on : Bool) : Config := { c with inlinePrimitives := on }

namespace Slot

theorem registers_inlining (c : Config) (driven : Bool) (s : Slot P) :
    s.registers (c.inlining true) driven =
      (s.registers (c.inlining false) driven && !s.toValue.isInlinable) := by
  simp [registers, Config.inlined?, Config.inlining, ← Value.isSome_literal?]

theorem registers_of_not_isInlinable {s : Slot P} (h : s.toValue.isInlinable = false) (c : Config)
    (driven : Bool) : s.registers c driven = true := by
  have hl : c.inlined? s.toValue = none := by
    rw [← Value.isSome_literal?, Option.isSome_eq_false_iff, Option.isNone_iff_eq_none] at h
    simp [Config.inlined?, h]
  cases s with
  | value v => simp [registers, hl]
  | item => cases h

end Slot

namespace Template

def holds (t : Template P) (id : HandleId) : Bool := t.slots.any fun s => s.toValue.isHandleTo id

variable (c : Config) (driven : Bool) (t : Template P)

theorem requests_inlining :
    t.requests (c.inlining true) driven =
      (t.requests (c.inlining false) driven).filter fun q => !q.2.isInlinable := by
  rw [requests, requests, List.filter_filterMap]
  congr 1
  funext seg
  obtain ⟨i, literal, slot⟩ := seg
  cases slot with
  | none => rfl
  | some s =>
    simp only [request?, Slot.registers_inlining]
    cases s.registers (c.inlining false) driven <;> cases h : s.toValue.isInlinable <;>
      simp [Option.filter_some, h, Config.entryKey, Config.inlining]

theorem toList_registry_inlining :
    (t.registry (c.inlining true) driven).bindings.toList =
      (t.registry (c.inlining false) driven).bindings.toList.filter
        fun e => !e.2.isInlinable := by
  rw [(t.records_registry _ driven).entries, (t.records_registry _ driven).entries,
    requests_inlining]
  -- the requests for one argument stay or go together, so those that stay keep their first slots
  apply Request.firsts_filter
  intro p q h
  rw [Value.isInlinable_congr h]

theorem key?_registry_inlining {v : Value P} (h : v.isInlinable = false) :
    (t.registry (c.inlining true) driven).table.key? v =
      (t.registry (c.inlining false) driven).table.key? v := by
  rw [(t.records_registry _ driven).key?_eq, (t.records_registry _ driven).key?_eq,
    requests_inlining]
  congr 1
  apply Request.first?_filter (q := ("", v))
  · intro p q hi
    rw [Value.isInlinable_congr hi]
  · simp [h]

theorem countP_registry (id : Identity) :
    (t.registry c driven).bindings.values.countP (fun v => decide (v.identity = id)) =
      if Request.first? (t.requests c driven) id = none then 0 else 1 := by
  rw [Bindings.values, List.countP_map, (t.records_registry c driven).entries]
  exact Request.countP_firsts _ id

/-- An argument without a literal is asked for by each slot that has it. -/
theorem first?_requests_of_not_isInlinable {id : Identity}
    (hid : ∀ v : Value P, v.identity = id → v.isInlinable = false) :
    Request.first? (t.requests c driven) id = none ↔ ∀ s ∈ t.slots, s.toValue.identity ≠ id := by
  rw [Request.first?_eq_none_iff]
  constructor
  · intro h s hs hi
    have hr := Slot.registers_of_not_isInlinable (hid s.toValue hi) c driven
    obtain ⟨i, hi'⟩ := List.mem_iff_getElem?.1 hs
    exact h _ (mem_requests_iff.2 ⟨i, s, hi', hr, rfl⟩) hi
  · intro h q hq
    obtain ⟨i, s, hs, -, rfl⟩ := mem_requests_iff.1 hq
    exact h s (List.mem_of_getElem? hs)

theorem first?_requests_handle (id : HandleId) :
    Request.first? (t.requests c driven) (.handle id) = none ↔ t.holds id = false := by
  have hid : ∀ v : Value P, v.identity = .handle id → v.isInlinable = false := by
    intro v hv
    have hd : v.isHandleTo id = true := by rw [Value.isHandleTo_eq_decide, decide_eq_true hv]
    exact Value.isInlinable_of_isHandleTo hd
  simp only [first?_requests_of_not_isInlinable c driven t hid, holds, List.any_eq_false,
    Value.isHandleTo_eq_decide, decide_eq_true_eq, ne_eq]

end Template

namespace Draft

theorem during_succ {c : Config} {t : Template P} {n : Nat} {seg : Template.Segment P}
    (h : t.segments[n]? = some seg) (passes : List (Option (Value P))) (driver : Option (Value P)) :
    during c t passes driver (n + 1) = (during c t passes driver n).segment c driver seg := by
  rw [during, List.take_add_one, h, List.foldl_append]
  rfl

theorem run_append_singleton_eq_drop (c : Config) (t : Template P)
    (passes : List (Option (Value P))) (driver : Option (Value P)) (n : Nat) :
    run c t (passes ++ [driver]) =
      (t.segments.drop n).foldl (segment c driver) (during c t passes driver n) := by
  rw [during, ← List.foldl_append, List.take_append_drop, run_append_singleton]
  rfl

theorem extends_during {c : Config} {t : Template P} {driven : Bool}
    {passes : List (Option (Value P))}
    {driver : Option (Value P)} (hp : Uniform driven (passes ++ [driver])) (n : Nat) :
    (t.registry c driven).table.Extends (during c t passes driver n).table := by
  have hr := registry_run_of_ne_nil c t hp (List.append_ne_nil_of_right_ne_nil _ (by simp))
  rw [run_append_singleton_eq_drop c t passes driver n, registry_segments] at hr
  rw [← hr]
  exact Registry.extends_recordAll _ _

theorem source_during_succ {c : Config} {t : Template P} {driven : Bool}
    {passes : List (Option (Value P))} {driver : Option (Value P)}
    (hp : Uniform driven (passes ++ [driver])) {n : Nat} {literal : String} {s : Slot P}
    (h : t.segments[n]? = some (n, literal, some s)) (hr : s.registers c driven = true) :
    (during c t passes driver (n + 1)).source =
      (during c t passes driver n).source ++ literal ++
        c.accessText ((t.registry c driven).table.keyOf s.toValue) := by
  have hd : driver.isSome = driven := hp driver (List.mem_append_right _ List.mem_cons_self)
  have hu := extends_during (c := c) (t := t) hp (n + 1)
  rw [during_succ h] at hu ⊢
  rw [source_segment _ c driver _ hu, String.append_assoc, Template.segmentText,
    Slot.text_of_registers (by rw [hd]; exact hr)]

end Draft

/-- What inlining makes of an expansion: `on` is written with it and `off` without it, both by the
same passes. -/
structure Expansion.Inlined (c : Config) (t : Template P) (passes : List (Option (Value P)))
    (on off : Expansion P) : Prop where
  on_source : on.source = (Draft.run (c.inlining true) t passes).source
  off_source : off.source = (Draft.run (c.inlining false) t passes).source
  bindings_eq : on.bindings.toList = off.bindings.toList.filter fun e => !e.2.isInlinable
  /-- In every pass, a slot with a value that has no literal is written by one text in both. -/
  access_eq : ∀ done driver rest, passes = done ++ driver :: rest →
    ∀ n literal s, t.segments[n]? = some (n, literal, some s) → s.toValue.isInlinable = false →
    ∃ key,
      (Draft.during (c.inlining true) t done driver (n + 1)).source =
        (Draft.during (c.inlining true) t done driver n).source ++ literal ++ c.accessText key ∧
      (Draft.during (c.inlining false) t done driver (n + 1)).source =
        (Draft.during (c.inlining false) t done driver n).source ++ literal ++ c.accessText key
  no_literal : ∀ v ∈ on.bindings.values, v.isNaN = true ∨ v.isPrimitive = false
  nan_once : on.bindings.values.countP Value.isNaN ≤ 1
  /-- Each allocation that occurs in the slots is bound once, as soon as there is a pass. -/
  handle_once : ∀ id, on.bindings.values.countP (Value.isHandleTo id) =
    if passes ≠ [] ∧ t.holds id = true then 1 else 0
  /-- Without a pass nothing is written, and nothing is bound. -/
  empty_of_no_pass : passes = [] → on = .empty ∧ off = .empty

namespace Draft

section

variable {c : Config} {t : Template P} {driven : Bool} {passes : List (Option (Value P))}

theorem toList_run_inlining (hp : Uniform driven passes) :
    (run (c.inlining true) t passes).bindings.toList =
      (run (c.inlining false) t passes).bindings.toList.filter fun e => !e.2.isInlinable := by
  by_cases hn : passes = []
  · subst hn
    rfl
  · rw [bindings_run _ t hp hn, bindings_run _ t hp hn, Template.toList_registry_inlining]

theorem countP_run (hp : Uniform driven passes) (id : Identity) :
    (run c t passes).bindings.values.countP (fun v => decide (v.identity = id)) =
      if passes ≠ [] ∧ Request.first? (t.requests c driven) id ≠ none then 1 else 0 := by
  by_cases hn : passes = []
  · subst hn
    rfl
  · rw [bindings_run c t hp hn, Template.countP_registry]
    simp [hn]

theorem access_inlining {driver : Option (Value P)} (hp : Uniform driven (passes ++ [driver]))
    {n : Nat} {literal : String} {s : Slot P} (hs : t.segments[n]? = some (n, literal, some s))
    (hv : s.toValue.isInlinable = false) (on : Bool) :
    (during (c.inlining on) t passes driver (n + 1)).source =
      (during (c.inlining on) t passes driver n).source ++ literal ++
        c.accessText ((t.registry (c.inlining false) driven).table.keyOf s.toValue) := by
  have h := source_during_succ hp hs (Slot.registers_of_not_isInlinable hv (c.inlining on) driven)
  have hk : (t.registry (c.inlining on) driven).table.keyOf s.toValue =
      (t.registry (c.inlining false) driven).table.keyOf s.toValue := by
    cases on with
    | false => rfl
    | true => rw [KeyTable.keyOf, Template.key?_registry_inlining c driven t hv, KeyTable.keyOf]
  rw [h, hk]
  rfl

theorem inlined_run (c : Config) (t : Template P) (hp : Uniform driven passes) :
    Expansion.Inlined c t passes (run (c.inlining true) t passes).finish
      (run (c.inlining false) t passes).finish := by
  refine ⟨rfl, rfl, toList_run_inlining hp, ?_, ?_, ?_, ?_, ?_⟩
  · rintro done driver rest rfl n literal s hseg hv
    rw [List.append_cons] at hp
    have hu : Uniform driven (done ++ [driver]) := hp.of_append
    exact ⟨_, access_inlining hu hseg hv true, access_inlining hu hseg hv false⟩
  · intro v hv
    apply Value.isNaN_or_not_isPrimitive
    obtain ⟨e, hm, rfl⟩ := List.mem_map.1 hv
    have hf : e ∈ (run (c.inlining true) t passes).bindings.toList := hm
    rw [toList_run_inlining hp] at hf
    simpa using (List.mem_filter.1 hf).2
  · have hc := countP_run (c := c.inlining true) (t := t) hp (.number .nan)
    rw [← funext Value.isNaN_eq_decide] at hc
    simp only [finish, hc]
    split <;> omega
  · intro id
    have hc := countP_run (c := c.inlining true) (t := t) hp (.handle id)
    rw [← funext (Value.isHandleTo_eq_decide id)] at hc
    simp only [finish, hc, ne_eq, Template.first?_requests_handle, Bool.not_eq_false]
  · rintro rfl
    exact ⟨rfl, rfl⟩

end

end Draft

namespace Config

/-- Inlining takes the primitives out of the bindings and renames nothing that stays. -/
theorem inlining_removes_primitives (c : Config) (t : Template P) :
    Expansion.Inlined c t [none] ((c.inlining true).expand t) ((c.inlining false).expand t) ∧
      ∀ drivers : List (Value P), Expansion.Inlined c t (drivers.map some)
        ((c.inlining true).expandEach drivers t) ((c.inlining false).expandEach drivers t) := by
  constructor
  · exact Draft.inlined_run c t uniform_none
  · intro drivers
    rw [expandEach_eq_run, expandEach_eq_run]
    exact Draft.inlined_run c t (uniform_some drivers)

def oneHandle : Template := ⟨[("", .value (.handle ⟨⟨0⟩, none, .unit⟩))], ""⟩

/-- Without a driver there is no pass, and no handle is bound that the slots hold. -/
theorem unbound_handle_without_driver :
    oneHandle.holds ⟨0⟩ = true ∧
      ((({} : Config).inlining true).expandEach [] oneHandle).bindings.values.countP
        (Value.isHandleTo ⟨0⟩) ≠ 1 := by
  decide

end Config

end Splice
