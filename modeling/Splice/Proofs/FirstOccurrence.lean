import Splice.Proofs.Passes

namespace Splice

variable {P : Type}

namespace Template

def first (c : Config) (driven : Bool) (t : Template P) (v : Value P) : Nat :=
  t.slots.findIdx fun s => s.registers c driven && s.toValue.same v

def entries (c : Config) (driven : Bool) (t : Template P) : List (String × Value P) :=
  (t.slots.zipIdx.filter fun p =>
    p.1.registers c driven && decide (t.first c driven p.1.toValue = p.2)).map fun p =>
    (c.entryKey p.2, p.1.toValue)

theorem first_eq_findIdx (c : Config) (driven : Bool) (t : Template P) (v : Value P) :
    t.first c driven v =
      t.slots.findIdx fun s =>
        s.registers c driven && decide (s.toValue.identity = v.identity) := by
  simp only [first, Request.same_eq_decide]

end Template

namespace Slot

variable (c : Config) (driven : Bool)

def requests (ss : List (Slot P)) : List (Request P) :=
  ss.zipIdx.filterMap fun p =>
    if p.1.registers c driven then some (c.entryKey p.2, p.1.toValue) else none

def firstIn (ss : List (Slot P)) (id : Identity) : Nat :=
  ss.findIdx fun s => s.registers c driven && decide (s.toValue.identity = id)

theorem requests_append_singleton (ss : List (Slot P)) (s : Slot P) :
    requests c driven (ss ++ [s]) = requests c driven ss ++
      (if s.registers c driven then [(c.entryKey ss.length, s.toValue)] else []) := by
  simp only [requests, List.zipIdx_append, List.filterMap_append]
  congr 1
  by_cases h : s.registers c driven = true <;> simp [h]

theorem firstIn_append_singleton (ss : List (Slot P)) (s : Slot P) (id : Identity) :
    firstIn c driven (ss ++ [s]) id =
      if firstIn c driven ss id < ss.length then firstIn c driven ss id
      else if s.registers c driven ∧ s.toValue.identity = id then ss.length
      else ss.length + 1 := by
  rw [firstIn, List.findIdx_append]
  congr 1
  by_cases h : s.registers c driven ∧ s.toValue.identity = id
  · simp [h]
  · rw [if_neg h]
    simp only [List.findIdx_singleton]
    rw [if_neg (by simpa using h), Nat.add_comm]

theorem firstIn_lt_length {ss : List (Slot P)} {s : Slot P} (hs : s ∈ ss)
    (hr : s.registers c driven = true) : firstIn c driven ss s.toValue.identity < ss.length := by
  apply List.findIdx_lt_length_of_exists
  exact ⟨s, hs, by simp [hr]⟩

theorem first?_requests (ss : List (Slot P)) (id : Identity) :
    (Request.first? (requests c driven ss) id).map Prod.fst =
      if firstIn c driven ss id < ss.length then some (c.entryKey (firstIn c driven ss id))
      else none := by
  induction ss using List.reverseRecOn with
  | nil => rfl
  | append_singleton ss s ih =>
    rw [requests_append_singleton, firstIn_append_singleton]
    by_cases hl : firstIn c driven ss id < ss.length
    · rw [if_pos hl] at ih
      obtain ⟨q, hq, hk⟩ := Option.map_eq_some_iff.1 ih
      have hn : firstIn c driven ss id < (ss ++ [s]).length := by
        rw [List.length_append]
        omega
      rw [Request.first?_append, hq, Option.some_or, Option.map_some, hk, if_pos hl, if_pos hn]
    · rw [if_neg hl, Option.map_eq_none_iff] at ih
      rw [if_neg hl]
      by_cases hr : s.registers c driven = true
      · rw [if_pos hr, Request.first?_append_singleton, ih, Option.none_or]
        by_cases hi : s.toValue.identity = id <;> simp [hr, hi]
      · simp [hr, ih]

theorem first?_requests_eq_none_iff (ss : List (Slot P)) (id : Identity) :
    Request.first? (requests c driven ss) id = none ↔ ¬ firstIn c driven ss id < ss.length := by
  rw [← Option.map_eq_none_iff, first?_requests]
  by_cases h : firstIn c driven ss id < ss.length
  · simp [h]
  · simp [h]

def firsts (ss : List (Slot P)) : List (Slot P × Nat) :=
  ss.zipIdx.filter fun p =>
    p.1.registers c driven && decide (firstIn c driven ss p.1.toValue.identity = p.2)

theorem firsts_append_singleton (ss : List (Slot P)) (s : Slot P) :
    firsts c driven (ss ++ [s]) = firsts c driven ss ++
      (if s.registers c driven ∧ ¬ firstIn c driven ss s.toValue.identity < ss.length
      then [(s, ss.length)] else []) := by
  rw [firsts, List.zipIdx_append, List.filter_append]
  congr 1
  · apply List.filter_congr
    intro p hp
    by_cases hr : p.1.registers c driven = true
    · have hl := firstIn_lt_length c driven (List.fst_mem_of_mem_zipIdx hp) hr
      rw [firstIn_append_singleton, if_pos hl]
    · simp [hr]
  · by_cases hr : s.registers c driven = true
    · by_cases hl : firstIn c driven ss s.toValue.identity < ss.length
      · have hne := Nat.ne_of_lt hl
        simp [hr, firstIn_append_singleton, hl, hne]
      · simp [hr, firstIn_append_singleton, hl]
    · simp [hr]

theorem firsts_requests (ss : List (Slot P)) :
    Request.firsts (requests c driven ss) =
      (firsts c driven ss).map fun p => (c.entryKey p.2, p.1.toValue) := by
  induction ss using List.reverseRecOn with
  | nil => rfl
  | append_singleton ss s ih =>
    rw [requests_append_singleton, firsts_append_singleton, List.map_append, ← ih]
    by_cases hr : s.registers c driven = true
    · rw [if_pos hr, Request.firsts_append_singleton]
      congr 1
      by_cases hl : firstIn c driven ss s.toValue.identity < ss.length
      · have hn := mt (first?_requests_eq_none_iff c driven ss s.toValue.identity).1 (not_not.2 hl)
        simp [hn, hl]
      · have hn := (first?_requests_eq_none_iff c driven ss s.toValue.identity).2 hl
        simp [hn, hl, hr]
    · simp [hr]

end Slot

namespace Template

theorem requests_eq_slots (c : Config) (driven : Bool) (t : Template P) :
    t.requests c driven = Slot.requests c driven t.slots := by
  rw [requests, segments, List.filterMap_append, Slot.requests, slots, List.zipIdx_map,
    List.mapIdx_eq_zipIdx_map, List.filterMap_map, List.filterMap_map]
  simp [request?, Function.comp_def]

theorem keyOf_registry {c : Config} {driven : Bool} {t : Template P} {s : Slot P}
    (hs : s ∈ t.slots) (hr : s.registers c driven = true) :
    (t.registry c driven).table.keyOf s.toValue = c.entryKey (t.first c driven s.toValue) := by
  have hk := (t.records_registry c driven).keys s.toValue.identity
  rw [requests_eq_slots, Slot.first?_requests,
    if_pos (Slot.firstIn_lt_length c driven hs hr)] at hk
  rw [KeyTable.keyOf, KeyTable.key?, hk, Option.getD_some, first_eq_findIdx]
  rfl

theorem toList_registry (c : Config) (driven : Bool) (t : Template P) :
    (t.registry c driven).bindings.toList = t.entries c driven := by
  rw [(t.records_registry c driven).entries, requests_eq_slots, Slot.firsts_requests]
  simp only [entries, first_eq_findIdx]
  rfl

theorem render_congr {c : Config} {driver : Option (Value P)} {t : Template P}
    {f g : Value P → String}
    (h : ∀ s ∈ t.slots, s.registers c driver.isSome = true → f s.toValue = g s.toValue) :
    t.render c f driver = t.render c g driver := by
  have hb : (t.body.map fun part => part.1 ++ part.2.text c f driver) =
      t.body.map fun part => part.1 ++ part.2.text c g driver := by
    apply List.map_congr_left
    intro part hp
    by_cases hr : part.2.registers c driver.isSome = true
    · rw [Slot.text_of_registers hr, Slot.text_of_registers hr,
        h part.2 (List.mem_map_of_mem hp) hr]
    · rw [Slot.text_of_not_registers hr f g]
  rw [render, render, hb]

theorem render_registry (c : Config) (driver : Option (Value P)) (t : Template P) :
    t.render c (t.registry c driver.isSome).table.keyOf driver =
      t.render c (fun v => c.entryKey (t.first c driver.isSome v)) driver := by
  apply render_congr
  intro s hs hr
  exact keyOf_registry hs hr

end Template

/-- What the state of an expansion comes to: every slot is written under the number of the first
slot that registers its argument, and these first slots are the bindings. -/
theorem Config.expand_eq_first_occurrences (c : Config) (t : Template P) :
    (c.expand t).source = t.render c (fun v => c.entryKey (t.first c false v)) none ∧
      (c.expand t).bindings.toList = t.entries c false := by
  constructor
  · rw [source_expand]
    exact t.render_registry c none
  · rw [bindings_expand]
    exact t.toList_registry c false

end Splice
