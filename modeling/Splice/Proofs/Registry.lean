import Splice.Expansion
import Splice.Proofs.Request

namespace Splice

variable {P : Type}

namespace KeyTable

theorem getElem?_register (t : KeyTable) (v : Value P) (key : String) (id : Identity) :
    (t.register v key).2.keys[id]? =
      t.keys[id]?.or (if v.identity = id then some key else none) := by
  unfold register
  cases h : t.key? v with
  | some earlier =>
    by_cases hi : v.identity = id
    · rw [key?, hi] at h
      simp [h]
    · simp [hi]
  | none =>
    simp only [Std.HashMap.getElem?_insert, beq_iff_eq]
    by_cases hi : v.identity = id
    · rw [key?, hi] at h
      simp [h, hi]
    · simp [hi]

/-- A table that goes by the first request for each argument still does after one more. -/
theorem keys_register {t : KeyTable} {qs : List (Request P)}
    (h : ∀ id, t.keys[id]? = (Request.first? qs id).map Prod.fst) (q : Request P) (id : Identity) :
    (t.register q.2 q.1).2.keys[id]? = (Request.first? (qs ++ [q]) id).map Prod.fst := by
  rw [getElem?_register, h, Request.first?_append_singleton]
  cases Request.first? qs id with
  | some p => rfl
  | none => by_cases hi : q.2.identity = id <;> simp [hi]

theorem size_register (t : KeyTable) (v : Value P) (key : String) :
    (t.register v key).2.size = if t.key? v = none then t.size + 1 else t.size := by
  unfold register
  cases h : t.key? v with
  | some earlier => rfl
  | none =>
    have hm : v.identity ∉ t.keys := by
      rw [Std.HashMap.mem_iff_isSome_getElem?, ← key?, h]
      exact Bool.false_ne_true
    rw [if_pos rfl, size, Std.HashMap.size_insert, if_neg hm]
    rfl

def keyOf (t : KeyTable) (v : Value P) : String := (t.key? v).getD ""

def Extends (u t : KeyTable) : Prop :=
  ∀ (id : Identity) (key : String), t.keys[id]? = some key → u.keys[id]? = some key

theorem Extends.refl (t : KeyTable) : t.Extends t := fun _ _ h => h

theorem Extends.trans {s t u : KeyTable} (h : u.Extends t) (h' : t.Extends s) : u.Extends s :=
  fun id key hk => h id key (h' id key hk)

theorem Extends.keyOf_eq {t u : KeyTable} (h : u.Extends t) {v : Value P} {key : String}
    (hk : t.key? v = some key) : u.keyOf v = key := by
  have hu : u.key? v = some key := h v.identity key hk
  rw [keyOf, hu, Option.getD_some]

end KeyTable

structure Registry (P : Type) where
  table : KeyTable := {}
  bindings : Bindings P := .empty

def Draft.registry (d : Draft P) : Registry P := ⟨d.table, d.bindings⟩

namespace Registry

open Request

def record (r : Registry P) (q : Request P) : Registry P :=
  match r.table.key? q.2 with
  | some _ => r
  | none => ⟨(r.table.register q.2 q.1).2, (r.bindings.insert q.1 q.2).2⟩

def recordAll (r : Registry P) (qs : List (Request P)) : Registry P := qs.foldl record r

theorem recordAll_append (r : Registry P) (ps qs : List (Request P)) :
    r.recordAll (ps ++ qs) = (r.recordAll ps).recordAll qs := by
  simp [recordAll, List.foldl_append]

theorem record_of_known {r : Registry P} {q : Request P} {key : String}
    (h : r.table.key? q.2 = some key) : r.record q = r := by
  simp [record, h]

theorem bindings_record_of_new {r : Registry P} {q : Request P} (h : r.table.key? q.2 = none) :
    (r.record q).bindings = (r.bindings.insert q.1 q.2).2 := by
  simp [record, h]

theorem table_record (r : Registry P) (q : Request P) :
    (r.record q).table = (r.table.register q.2 q.1).2 := by
  cases h : r.table.key? q.2 with
  | some key => simp [record, KeyTable.register, h]
  | none => simp [record, h]

theorem extends_record (r : Registry P) (q : Request P) : (r.record q).table.Extends r.table := by
  intro id key hk
  rw [table_record, KeyTable.getElem?_register, hk, Option.some_or]

theorem extends_recordAll (r : Registry P) (qs : List (Request P)) :
    (r.recordAll qs).table.Extends r.table := by
  induction qs generalizing r with
  | nil => exact KeyTable.Extends.refl r.table
  | cons q qs ih => exact (ih (r.record q)).trans (extends_record r q)

/-- What a registry is after requests, none of them forgotten and none replaced. -/
structure Records (qs : List (Request P)) (r : Registry P) : Prop where
  keys : ∀ id, r.table.keys[id]? = (first? qs id).map Prod.fst
  entries : r.bindings.toList = firsts qs
  size : r.table.size = r.bindings.size

namespace Records

theorem empty : Records ([] : List (Request P)) {} := by
  refine ⟨?_, rfl, rfl⟩
  intro id
  simp [first?]

variable {qs : List (Request P)} {r : Registry P} {q : Request P}

theorem key?_eq (h : Records qs r) (v : Value P) :
    r.table.key? v = (first? qs v.identity).map Prod.fst :=
  h.keys v.identity

theorem keys_eq_some_iff (h : Records qs r) {id : Identity} {key : String} :
    r.table.keys[id]? = some key ↔ ∃ v, r.bindings.get? key = some v ∧ v.identity = id := by
  simp only [h.keys, Bindings.get?_eq_some_iff, h.entries, mem_firsts_iff, Option.map_eq_some_iff]
  constructor
  · rintro ⟨⟨k, v⟩, hf, rfl⟩
    have hv : v.identity = id := identity_of_first? hf
    subst hv
    exact ⟨v, hf, rfl⟩
  · rintro ⟨v, hf, rfl⟩
    exact ⟨(key, v), hf, rfl⟩

/-- A new argument never meets a key that is bound. -/
theorem get?_eq_none (h : Records qs r) (hq : Fits qs q) (hn : r.table.key? q.2 = none) :
    r.bindings.get? q.1 = none := by
  rw [h.key?_eq, Option.map_eq_none_iff, first?_eq_none_iff] at hn
  cases hb : r.bindings.get? q.1 with
  | none => rfl
  | some w =>
    rw [Bindings.get?_eq_some_iff, h.entries, mem_firsts_iff] at hb
    have hm := mem_of_first? hb
    exact absurd (hq _ hm rfl) (hn _ hm)

theorem keys_record (h : Records qs r) (q : Request P) (id : Identity) :
    (r.record q).table.keys[id]? = (first? (qs ++ [q]) id).map Prod.fst := by
  rw [table_record]
  exact KeyTable.keys_register h.keys q id

theorem record_known (h : Records qs r) {key : String} (hk : r.table.key? q.2 = some key) :
    Records (qs ++ [q]) (r.record q) := by
  have hs : first? qs q.2.identity ≠ none := by
    intro hs
    rw [h.key?_eq, hs] at hk
    cases hk
  have hf := firsts_append_singleton qs q
  rw [if_neg hs, List.append_nil] at hf
  refine ⟨h.keys_record q, ?_, ?_⟩
  · rw [record_of_known hk, h.entries, hf]
  · rw [record_of_known hk]
    exact h.size

theorem record_new (h : Records qs r) (hq : Fits qs q) (hn : r.table.key? q.2 = none) :
    Records (qs ++ [q]) (r.record q) := by
  have hs : first? qs q.2.identity = none := by
    rwa [h.key?_eq, Option.map_eq_none_iff] at hn
  have hf := firsts_append_singleton qs q
  rw [if_pos hs] at hf
  have ht := Bindings.toList_insert_of_get?_eq_none (h.get?_eq_none hq hn) q.2
  rw [← bindings_record_of_new hn] at ht
  refine ⟨h.keys_record q, ?_, ?_⟩
  · rw [ht, hf, h.entries]
  · have hl := congrArg List.length ht
    rw [List.length_append, List.length_singleton] at hl
    rw [table_record, KeyTable.size_register, if_pos hn, h.size]
    exact hl.symm

theorem record (h : Records qs r) (hq : Fits qs q) : Records (qs ++ [q]) (r.record q) := by
  cases hn : r.table.key? q.2 with
  | some key => exact h.record_known hn
  | none => exact h.record_new hq hn

end Records

theorem records_recordAll {qs : List (Request P)} (h : Consistent qs) :
    Records qs (recordAll {} qs) := by
  induction qs using List.reverseRecOn with
  | nil => exact Records.empty
  | append_singleton qs q ih =>
    rw [recordAll, List.foldl_append]
    exact (ih h.of_append).record h.fits

end Registry

end Splice
