import Mathlib.Data.List.Induction
import Mathlib.Data.List.Nodup
import Splice.Bindings

namespace Splice

variable {P : Type}

namespace Bindings

def latest? (history : List (String × Value P)) (key : String) : Option (Value P) :=
  history.reverse.lookup key

def entriesOf (history : List (String × Value P)) : List (String × Value P) :=
  (history.map Prod.fst).eraseDups.filterMap fun key => (latest? history key).map (key, ·)

def insertAll (b : Bindings P) : List (String × Value P) → List (Option (Value P)) × Bindings P
  | [] => ([], b)
  | (key, v) :: pairs =>
    let answer := b.insert key v
    let run := answer.2.insertAll pairs
    (answer.1 :: run.1, run.2)

def rebind (key : String) (v : Value P) (entry : String × Value P) : String × Value P :=
  if entry.1 = key then (key, v) else entry

section

variable (history : List (String × Value P))

theorem latest?_append_singleton (key : String) (v : Value P) (k : String) :
    latest? (history ++ [(key, v)]) k = if k = key then some v else latest? history k := by
  rw [latest?, List.reverse_append, List.reverse_singleton, List.singleton_append,
    List.lookup_cons]
  by_cases h : k = key
  · rw [if_pos h, beq_iff_eq.2 h]
  · rw [if_neg h, beq_false_of_ne h]
    rfl

theorem isSome_latest?_iff (key : String) :
    (latest? history key).isSome = true ↔ key ∈ history.map Prod.fst := by
  simp [latest?, List.lookup_isSome_iff]

theorem map_fst_entriesOf :
    (entriesOf history).map Prod.fst = (history.map Prod.fst).eraseDups := by
  have h : ∀ key ∈ (history.map Prod.fst).eraseDups,
      ((latest? history key).map (key, ·)).map Prod.fst = some key := by
    intro key hk
    rw [List.mem_eraseDups, ← isSome_latest?_iff] at hk
    obtain ⟨v, hv⟩ := Option.isSome_iff_exists.1 hk
    rw [hv]
    rfl
  rw [entriesOf, List.map_filterMap, List.filterMap_congr h, List.filterMap_some]

theorem eraseDups_append_singleton (keys : List String) (key : String) :
    (keys ++ [key]).eraseDups =
      if key ∈ keys then keys.eraseDups else keys.eraseDups ++ [key] := by
  by_cases h : key ∈ keys <;> simp [List.eraseDups_append, List.removeAll, List.eraseDups_cons, h]

theorem entriesOf_append_singleton (key : String) (v : Value P) :
    entriesOf (history ++ [(key, v)]) =
      if key ∈ history.map Prod.fst then (entriesOf history).map (rebind key v)
      else entriesOf history ++ [(key, v)] := by
  rw [entriesOf, List.map_append, List.map_singleton, eraseDups_append_singleton]
  by_cases hk : key ∈ history.map Prod.fst
  · rw [if_pos hk, if_pos hk, entriesOf, List.map_filterMap]
    refine List.filterMap_congr fun k hm => ?_
    rw [List.mem_eraseDups, ← isSome_latest?_iff] at hm
    obtain ⟨w, hw⟩ := Option.isSome_iff_exists.1 hm
    rw [latest?_append_singleton, hw]
    by_cases h : k = key <;> simp [rebind, h]
  · rw [if_neg hk, if_neg hk, List.filterMap_append, entriesOf]
    congr 1
    · refine List.filterMap_congr fun k hm => ?_
      have hne : k ≠ key := by
        rintro rfl
        exact hk (List.mem_eraseDups.1 hm)
      rw [latest?_append_singleton, if_neg hne]
    · simp [latest?_append_singleton]

example : entriesOf [("a", (.null : Value)), ("b", .null), ("a", .bool true)] =
    [("a", .bool true), ("b", .null)] := by decide

theorem lookup_filterMap (f : String → Option (Value P)) (keys : List String) (key : String) :
    (keys.filterMap fun k => (f k).map (k, ·)).lookup key = if key ∈ keys then f key else none := by
  induction keys with
  | nil => rfl
  | cons k keys ih =>
    by_cases hk : key = k
    · subst k
      cases hf : f key with
      | none =>
        rw [List.filterMap_cons_none (by rw [hf]; rfl), ih, if_pos List.mem_cons_self, hf, ite_self]
      | some v =>
        rw [List.filterMap_cons_some (by rw [hf]; rfl), List.lookup_cons_self,
          if_pos List.mem_cons_self]
    · cases hf : f k with
      | none => simp [hf, ih, hk]
      | some v => simp [hf, ih, hk, List.lookup_cons, beq_false_of_ne hk]

theorem lookup_entriesOf (key : String) :
    (entriesOf history).lookup key = latest? history key := by
  rw [entriesOf, lookup_filterMap]
  split
  · rfl
  · next h =>
    rw [List.mem_eraseDups, ← isSome_latest?_iff, Option.not_isSome_iff_eq_none] at h
    exact h.symm

end

theorem getElem?_keys (b : Bindings P) (i : Nat) (key : String) :
    b.keys[i]? = some key ↔ b.index[key]? = some i := by
  rw [keys, toList, List.getElem?_map, Array.getElem?_toList, b.index_iff]

theorem nodup_keys (b : Bindings P) : b.keys.Nodup := by
  rw [List.nodup_iff_getElem?_ne_getElem?]
  intro i j hij hj h
  have hjk := List.getElem?_eq_getElem hj
  have hi := (b.getElem?_keys i _).1 (h.trans hjk)
  have hj' := (b.getElem?_keys j _).1 hjk
  rw [hi, Option.some.injEq] at hj'
  omega

theorem mem_keys_iff {b : Bindings P} {key : String} : key ∈ b.keys ↔ b.contains key = true := by
  rw [contains, Std.HashMap.contains_eq_isSome_getElem?, Option.isSome_iff_exists,
    List.mem_iff_getElem?]
  exact exists_congr fun i => b.getElem?_keys i key

theorem toList_set {b : Bindings P} {key : String} {i : Nat} (hi : b.index[key]? = some i)
    (v : Value P) : b.toList.set i (key, v) = b.toList.map (rebind key v) := by
  refine List.ext_getElem? fun j => ?_
  rw [toList, List.getElem?_map, List.getElem?_set, Array.getElem?_toList, Array.length_toList]
  by_cases hij : i = j
  · subst j
    obtain ⟨entry, he, hk⟩ := Option.map_eq_some_iff.1 ((b.index_iff key i).1 hi)
    rw [if_pos rfl, if_pos (lt_of_index hi), he, Option.map_some, rebind, if_pos hk]
  · rw [if_neg hij]
    cases he : b.entries[j]? with
    | none => rfl
    | some entry =>
      have hne : entry.1 ≠ key := by
        intro hk
        have hj := (b.index_iff key j).2 (by rw [he, Option.map_some, hk])
        exact hij (Option.some.inj (hi.symm.trans hj))
      rw [Option.map_some, rebind, if_neg hne]

theorem toList_insert (b : Bindings P) (key : String) (v : Value P) :
    (b.insert key v).2.toList =
      if key ∈ b.keys then b.toList.map (rebind key v) else b.toList ++ [(key, v)] := by
  have hk : key ∈ b.keys ↔ b.index[key]?.isSome = true := by
    rw [mem_keys_iff, contains, Std.HashMap.contains_eq_isSome_getElem?]
  unfold insert
  dsimp only
  split
  · next i hi =>
    rw [if_pos (hk.2 (by rw [hi]; rfl)), ← toList_set hi, toList, Array.toList_set]
    rfl
  · next hn =>
    rw [if_neg (by rw [hk, hn]; exact Bool.false_ne_true)]
    exact Array.toList_push

/-- What an insertion does to bindings is what one more insertion does to the history. -/
theorem toList_insert_of_history {b : Bindings P} {history : List (String × Value P)}
    (hb : b.toList = entriesOf history) (key : String) (v : Value P) :
    (b.insert key v).2.toList = entriesOf (history ++ [(key, v)]) := by
  have hk : key ∈ b.keys ↔ key ∈ history.map Prod.fst := by
    rw [keys, hb, map_fst_entriesOf, List.mem_eraseDups]
  rw [toList_insert, entriesOf_append_singleton, hb]
  exact if_congr hk rfl rfl

theorem lookup_eq_some_iff_mem {entries : List (String × Value P)}
    (hn : (entries.map Prod.fst).Nodup) {key : String} {v : Value P} :
    entries.lookup key = some v ↔ (key, v) ∈ entries := by
  induction entries with
  | nil => simp
  | cons entry entries ih =>
    obtain ⟨k, w⟩ := entry
    rw [List.map_cons, List.nodup_cons] at hn
    rw [List.mem_cons, List.lookup_cons]
    by_cases h : key = k
    · subst k
      have hm : (key, v) ∉ entries := fun hm => hn.1 (List.mem_map.2 ⟨_, hm, rfl⟩)
      simp [hm, eq_comm]
    · simp [beq_false_of_ne h, h, ih hn.2]

theorem get?_eq_lookup (b : Bindings P) (key : String) : b.get? key = b.toList.lookup key := by
  refine Option.ext fun v => ?_
  rw [get?_eq_some_iff, lookup_eq_some_iff_mem b.nodup_keys]

theorem entriesOf_of_nodup {entries : List (String × Value P)}
    (hn : (entries.map Prod.fst).Nodup) : entriesOf entries = entries := by
  induction entries using List.reverseRecOn with
  | nil => rfl
  | append_singleton entries entry ih =>
    rw [List.map_append, List.map_singleton, List.nodup_append] at hn
    have hk : entry.1 ∉ entries.map Prod.fst :=
      fun hm => hn.2.2 _ hm _ (List.mem_singleton_self _) rfl
    rw [entriesOf_append_singleton, if_neg hk, ih hn.1]

theorem entriesOf_toList (b : Bindings P) : entriesOf b.toList = b.toList :=
  entriesOf_of_nodup b.nodup_keys

theorem toList_insertAll {history : List (String × Value P)} (pairs : List (String × Value P))
    {b : Bindings P} (hb : b.toList = entriesOf history) :
    (b.insertAll pairs).2.toList = entriesOf (history ++ pairs) := by
  induction pairs generalizing b history with
  | nil => rwa [List.append_nil]
  | cons pair pairs ih =>
    have h := ih (toList_insert_of_history hb pair.1 pair.2)
    rwa [List.append_assoc] at h

theorem getElem?_insertAll {history : List (String × Value P)} (pairs : List (String × Value P))
    {b : Bindings P} (hb : b.toList = entriesOf history) (i : Nat) :
    (b.insertAll pairs).1[i]? =
      pairs[i]?.map fun pair => latest? (history ++ pairs.take i) pair.1 := by
  induction pairs generalizing b history i with
  | nil => rfl
  | cons pair pairs ih =>
    cases i with
    | zero =>
      have h : b.get? pair.1 = latest? history pair.1 := by
        rw [get?_eq_lookup, hb, lookup_entriesOf]
      rw [List.take_zero, List.append_nil]
      exact congrArg some h
    | succ i =>
      have h := ih (toList_insert_of_history hb pair.1 pair.2) i
      rwa [List.append_assoc] at h

theorem insertAll_empty (pairs : List (String × Value P)) :
    (empty.insertAll pairs).2 = ofList pairs := by
  have h : ∀ b : Bindings P, (b.insertAll pairs).2 =
      pairs.foldl (fun b pair => (b.insert pair.1 pair.2).2) b := by
    induction pairs with
    | nil => exact fun b => rfl
    | cons pair pairs ih => exact fun b => ih (b.insert pair.1 pair.2).2
  exact h empty

theorem toList_ofList (pairs : List (String × Value P)) :
    (ofList pairs).toList = entriesOf pairs := by
  have h : (empty.insertAll pairs).2.toList = entriesOf ([] ++ pairs) := toList_insertAll pairs rfl
  rwa [insertAll_empty, List.nil_append] at h

/-- What bindings show after a history of insertions. -/
structure Shows (b : Bindings P) (history : List (String × Value P)) : Prop where
  toList : b.toList = entriesOf history
  keys : b.keys = (history.map Prod.fst).eraseDups
  values : b.values = (entriesOf history).map Prod.snd
  size : b.size = (entriesOf history).length
  isEmpty : b.isEmpty = true ↔ entriesOf history = []
  get? : ∀ key, b.get? key = latest? history key
  lookup : ∀ key, b.get? key = (entriesOf history).lookup key
  contains : ∀ key, b.contains key = true ↔ key ∈ (entriesOf history).map Prod.fst
  index : ∀ (key : String) (i : Nat), b.index[key]? = some i → ∃ v, b.entries[i]? = some (key, v)
  collected : (ofList b.toList).toList = b.toList

theorem shows_of_toList_eq {b : Bindings P} {history : List (String × Value P)}
    (hb : b.toList = entriesOf history) : Shows b history := by
  have hl : ∀ key, b.get? key = (entriesOf history).lookup key := by
    intro key
    rw [get?_eq_lookup, hb]
  refine ⟨hb, ?_, ?_, ?_, ?_, ?_, hl, ?_, ?_, ?_⟩
  · rw [keys, hb, map_fst_entriesOf]
  · rw [values, hb]
  · rw [← hb]
    rfl
  · rw [← hb, isEmpty, toList, Array.isEmpty_iff, Array.toList_eq_nil_iff]
  · intro key
    rw [hl, lookup_entriesOf]
  · intro key
    rw [← mem_keys_iff, keys, hb]
  · intro key i hi
    obtain ⟨⟨k, v⟩, he, rfl⟩ := Option.map_eq_some_iff.1 ((b.index_iff key i).1 hi)
    exact ⟨v, he⟩
  · rw [toList_ofList, entriesOf_toList]

theorem Shows.insertAll {b : Bindings P} {history : List (String × Value P)} (hb : Shows b history)
    (pairs : List (String × Value P)) : Shows (b.insertAll pairs).2 (history ++ pairs) :=
  shows_of_toList_eq (toList_insertAll pairs hb.toList)

/-- Bindings show their history of insertions, whether they start empty, from a list of pairs or as
a copy of others, and each insertion gives back what its key was bound to last. -/
theorem insertions_refine_history :
    Shows (empty : Bindings P) [] ∧
      (∀ pairs : List (String × Value P), Shows (ofList pairs) pairs) ∧
      (∀ b : Bindings P, Shows b b.toList) ∧
      ∀ (b : Bindings P) (history pairs : List (String × Value P)), Shows b history →
        Shows (b.insertAll pairs).2 (history ++ pairs) ∧
          ∀ i : Nat, (b.insertAll pairs).1[i]? =
            pairs[i]?.map fun pair => latest? (history ++ pairs.take i) pair.1 := by
  refine ⟨shows_of_toList_eq rfl, fun pairs => shows_of_toList_eq (toList_ofList pairs),
    fun b => shows_of_toList_eq b.entriesOf_toList.symm, fun b history pairs hb => ⟨?_, ?_⟩⟩
  · exact hb.insertAll pairs
  · exact getElem?_insertAll pairs hb.toList

end Bindings

end Splice
