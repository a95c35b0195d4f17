import Std.Data.HashMap
import Splice.Value

namespace Splice

/-- Keys in the order of their first insertion, each with its latest value. -/
structure Bindings (P : Type := Payload) where
  entries : Array (String × Value P)
  index : Std.HashMap String Nat
  /-- The index holds exactly the positions of the keys. -/
  index_iff : ∀ (key : String) (i : Nat), index[key]? = some i ↔
    entries[i]?.map Prod.fst = some key

namespace Bindings

variable {P : Type}

def empty : Bindings P := ⟨#[], {}, by simp⟩

instance : Inhabited (Bindings P) := ⟨empty⟩

theorem lt_of_index {b : Bindings P} {key : String} {i : Nat} (h : b.index[key]? = some i) :
    i < b.entries.size := by
  obtain ⟨e, he, -⟩ := Option.map_eq_some_iff.1 ((b.index_iff key i).1 h)
  exact (Array.getElem?_eq_some_iff.1 he).1

theorem index_iff_set {b : Bindings P} {key : String} {i : Nat} (h : b.index[key]? = some i)
    (value : Value P) (k : String) (j : Nat) :
    b.index[k]? = some j ↔
      ((b.entries.set i (key, value) (lt_of_index h))[j]?).map Prod.fst = some k := by
  have hk := (b.index_iff key i).1 h
  rw [b.index_iff, Array.getElem?_set]
  split
  · subst j
    rw [hk, Option.map_some]
  · rfl

theorem index_iff_push {b : Bindings P} {key : String} (h : b.index[key]? = none)
    (value : Value P) (k : String) (j : Nat) :
    (b.index.insert key b.entries.size)[k]? = some j ↔
      ((b.entries.push (key, value))[j]?).map Prod.fst = some k := by
  have hj := b.index_iff k j
  rw [Std.HashMap.getElem?_insert, Array.getElem?_push]
  by_cases hk : key = k <;> by_cases hs : j = b.entries.size
  · simp [hk, hs]
  · subst k
    simp_all [eq_comm]
  · subst j
    simp_all
  · simp_all

def get? (b : Bindings P) (key : String) : Option (Value P) :=
  b.index[key]?.bind fun i => b.entries[i]?.map Prod.snd

/-- Binds a value to a key and gives back what the key was bound to. A key that is bound already
keeps its position. -/
def insert (b : Bindings P) (key : String) (value : Value P) : Option (Value P) × Bindings P :=
  (b.get? key,
    match h : b.index[key]? with
    | some i =>
      ⟨b.entries.set i (key, value) (lt_of_index h), b.index, index_iff_set h value⟩
    | none =>
      ⟨b.entries.push (key, value), b.index.insert key b.entries.size, index_iff_push h value⟩)

def contains (b : Bindings P) (key : String) : Bool := b.index.contains key

def size (b : Bindings P) : Nat := b.entries.size

def isEmpty (b : Bindings P) : Bool := b.entries.isEmpty

def toList (b : Bindings P) : List (String × Value P) := b.entries.toList

def keys (b : Bindings P) : List String := b.toList.map Prod.fst

def values (b : Bindings P) : List (Value P) := b.toList.map Prod.snd

def ofList (pairs : List (String × Value P)) : Bindings P :=
  pairs.foldl (fun b pair => (b.insert pair.1 pair.2).2) empty

def equals (a b : Bindings P) : Bool :=
  a.toList.isEqv b.toList fun x y => x.1 == y.1 && x.2.equals y.2

theorem get?_eq_some_iff {b : Bindings P} {key : String} {v : Value P} :
    b.get? key = some v ↔ (key, v) ∈ b.toList := by
  rw [toList, Array.mem_toList_iff, Array.mem_iff_getElem?]
  constructor
  · intro h
    obtain ⟨i, hi, hv⟩ := Option.bind_eq_some_iff.1 h
    obtain ⟨e, he, rfl⟩ := Option.map_eq_some_iff.1 hv
    have hk := (b.index_iff key i).1 hi
    rw [he, Option.map_some, Option.some.injEq] at hk
    exact ⟨i, by rw [he, ← hk]⟩
  · intro ⟨i, hi⟩
    have hx : b.index[key]? = some i := (b.index_iff key i).2 (by rw [hi]; rfl)
    rw [get?, hx, Option.bind_some, hi, Option.map_some]

theorem contains_eq (b : Bindings P) (key : String) : b.contains key = (b.get? key).isSome := by
  rw [contains, Std.HashMap.contains_eq_isSome_getElem?, get?]
  cases h : b.index[key]? with
  | none => rfl
  | some i =>
    rw [Option.bind_some, Array.getElem?_eq_getElem (lt_of_index h)]
    rfl

theorem contains_empty (key : String) : (empty : Bindings P).contains key = false := by
  simp [contains, empty]

theorem get?_insert_self (b : Bindings P) (key : String) (v : Value P) :
    (b.insert key v).2.get? key = some v := by
  rw [get?_eq_some_iff, toList, Array.mem_toList_iff]
  unfold insert
  dsimp only
  split
  · next h => exact Array.mem_set (lt_of_index h)
  · exact Array.mem_push_self

theorem get?_insert_of_ne (b : Bindings P) {key k : String} (hk : key ≠ k) (v : Value P) :
    (b.insert key v).2.get? k = b.get? k := by
  unfold insert
  dsimp only
  split
  · next i h =>
    simp only [get?]
    cases hj : b.index[k]? with
    | none => rfl
    | some j =>
      have hij : i ≠ j := by
        rintro rfl
        have h1 := (b.index_iff key i).1 h
        have h2 := (b.index_iff k i).1 hj
        exact hk (Option.some.inj (h1.symm.trans h2))
      rw [Option.bind_some, Option.bind_some, Array.getElem?_set_ne (lt_of_index h) hij]
  · next h =>
    simp only [get?]
    rw [Std.HashMap.getElem?_insert, if_neg (by simpa using hk)]
    cases hj : b.index[k]? with
    | none => rfl
    | some j =>
      have := lt_of_index hj
      rw [Option.bind_some, Option.bind_some, Array.getElem?_push_lt this,
        Array.getElem?_eq_getElem this]

theorem toList_insert_of_get?_eq_none {b : Bindings P} {key : String} (h : b.get? key = none)
    (v : Value P) : (b.insert key v).2.toList = b.toList ++ [(key, v)] := by
  unfold insert
  dsimp only
  split
  · next i hi =>
    have hc := contains_eq b key
    rw [h, contains, Std.HashMap.contains_eq_isSome_getElem?, hi] at hc
    cases hc
  · exact Array.toList_push

end Bindings

end Splice
