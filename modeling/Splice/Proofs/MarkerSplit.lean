import Mathlib.Data.List.Infix
import Splice.Template

namespace Splice

variable {P : Type}

namespace Template

def marker : List Char := ['$', '{', '}']

def markerCount (s : List Char) : Nat := s.tails.countP marker.isPrefixOf

def MarkerFree (s : List Char) : Prop := ¬ marker <:+: s

theorem split_marker_append (s : List Char) :
    split (marker ++ s) = ([], (split s).1 :: (split s).2) := by
  rw [marker, List.cons_append, List.cons_append, List.singleton_append, split]

theorem split_cons {c : Char} {s : List Char} (h : ¬ marker <+: c :: s) :
    split (c :: s) = (c :: (split s).1, (split s).2) := by
  rw [split]
  rintro t rfl rfl
  exact h (List.prefix_append marker t)

theorem split_induction {motive : List Char → Prop} (nil : motive [])
    (mark : ∀ s, motive s → motive (marker ++ s))
    (char : ∀ c s, ¬ marker <+: c :: s → motive s → motive (c :: s)) (s : List Char) :
    motive s := by
  fun_induction split s with
  | case1 => exact nil
  | case2 s rest ih => exact mark s ih
  | case3 c s h rest ih =>
    refine char c s ?_ ih
    rintro ⟨t, ht⟩
    simp only [marker, List.cons_append, List.cons.injEq] at ht
    exact h t ht.1.symm ht.2.symm

theorem length_split (s : List Char) : (split s).2.length = markerCount s := by
  induction s using split_induction with
  | nil => rfl
  | mark s ih =>
    rw [split_marker_append, List.length_cons, ih]
    simp [marker, markerCount, List.isPrefixOf]
  | char c s h ih =>
    have hp : marker.isPrefixOf (c :: s) = false := by
      rwa [← Bool.not_eq_true, List.isPrefixOf_iff_prefix]
    rw [split_cons h, ih, markerCount, markerCount, List.tails_cons, List.countP_cons, hp]
    rfl

theorem intercalate_split (s : List Char) :
    marker.intercalate ((split s).1 :: (split s).2) = s := by
  induction s using split_induction with
  | nil => rfl
  | mark s ih =>
    rw [split_marker_append, List.intercalate_cons_cons, ih, List.nil_append]
  | char c s h ih =>
    rw [split_cons h, List.intercalate_cons_cons_left, ih]

theorem isPrefix_fst_split (s : List Char) : (split s).1 <+: s := by
  induction s using split_induction with
  | nil => exact List.prefix_rfl
  | mark s ih =>
    rw [split_marker_append]
    exact ⟨_, rfl⟩
  | char c s h ih =>
    rw [split_cons h]
    exact (List.prefix_cons_inj c).2 ih

theorem markerFree_of_mem_split {s : List Char} :
    ∀ l ∈ (split s).1 :: (split s).2, MarkerFree l := by
  have hnil : MarkerFree [] := by simp [MarkerFree, marker]
  induction s using split_induction with
  | nil => simpa [split] using hnil
  | mark s ih =>
    rw [split_marker_append]
    exact List.forall_mem_cons.2 ⟨hnil, ih⟩
  | char c s h ih =>
    rw [split_cons h]
    obtain ⟨h1, h2⟩ := List.forall_mem_cons.1 ih
    refine List.forall_mem_cons.2 ⟨fun hi => ?_, h2⟩
    rcases List.infix_cons_iff.1 hi with hp | hi
    · exact h (hp.trans ((List.prefix_cons_inj c).2 (isPrefix_fst_split s)))
    · exact h1 hi

theorem MarkerFree.of_cons {c : Char} {s : List Char} (h : MarkerFree (c :: s)) : MarkerFree s :=
  fun hi => h (List.infix_cons_iff.2 (Or.inr hi))

theorem MarkerFree.not_isPrefix {s : List Char} (h : MarkerFree s) : ¬ marker <+: s :=
  fun hp => h hp.isInfix

/-- No marker begins in a literal and ends in the marker after it, which begins with a character
that stands nowhere else in a marker. -/
theorem MarkerFree.not_prefix_append {c : Char} {l : List Char} (h : MarkerFree (c :: l))
    (s : List Char) : ¬ marker <+: c :: (l ++ (marker ++ s)) := by
  rintro ⟨t, ht⟩
  rcases l with _ | ⟨d, _ | ⟨e, l⟩⟩ <;>
    simp only [marker, List.cons_append, List.nil_append, List.cons.injEq] at ht
  · exact absurd ht.2.1 (by decide)
  · exact absurd ht.2.2.1 (by decide)
  · obtain ⟨rfl, rfl, rfl, -⟩ := ht
    exact h.not_isPrefix ⟨l, rfl⟩

theorem split_of_markerFree {l : List Char} (h : MarkerFree l) : split l = (l, []) := by
  induction l with
  | nil => rfl
  | cons c l ih => rw [split_cons h.not_isPrefix, ih h.of_cons]

theorem split_append_marker {l : List Char} (h : MarkerFree l) (s : List Char) :
    split (l ++ (marker ++ s)) = (l, (split s).1 :: (split s).2) := by
  induction l with
  | nil => exact split_marker_append s
  | cons c l ih => rw [List.cons_append, split_cons (h.not_prefix_append s), ih h.of_cons]

theorem split_intercalate {l : List Char} {ls : List (List Char)}
    (h : ∀ x ∈ l :: ls, MarkerFree x) : split (marker.intercalate (l :: ls)) = (l, ls) := by
  induction ls generalizing l with
  | nil =>
    rw [List.intercalate_singleton]
    exact split_of_markerFree (h l List.mem_cons_self)
  | cons m ls ih =>
    rw [List.intercalate_cons_cons, List.append_assoc,
      split_append_marker (h l List.mem_cons_self), ih fun x hx => h x (List.mem_cons_of_mem l hx)]

theorem exists_ofParts {literals : List String} {slots : List (Slot P)}
    (h : literals.length = slots.length + 1) :
    ∃ t, ofParts literals slots = .ok t ∧ t.literals = literals ∧ t.slots = slots := by
  obtain ⟨t, ht⟩ := Option.isSome_iff_exists.1 (interleave?_isSome_iff.2 h)
  exact ⟨t, by rw [ofParts, ht], parts_of_interleave? ht⟩

theorem ofParts_of_length_ne {literals : List String} {slots : List (Slot P)}
    (h : literals.length ≠ slots.length + 1) :
    ofParts literals slots = .error ⟨literals.length, slots.length⟩ := by
  have hn : interleave? literals slots = none := by
    rwa [← Option.not_isSome_iff_eq_none, interleave?_isSome_iff]
  rw [ofParts, hn]

def pieces (text : String) : List String :=
  ((split text.toList).1 :: (split text.toList).2).map String.ofList

theorem parse_eq (text : String) (slots : List (Slot P)) :
    parse text slots = ofParts (pieces text) slots := rfl

theorem length_pieces (text : String) : (pieces text).length = markerCount text.toList + 1 := by
  rw [pieces, List.length_map, List.length_cons, length_split]

theorem map_toList_pieces (text : String) :
    (pieces text).map String.toList = (split text.toList).1 :: (split text.toList).2 := by
  rw [pieces, List.map_map]
  exact List.map_id'' (fun l => String.toList_ofList) _

theorem intercalate_pieces (text : String) :
    (String.ofList marker).intercalate (pieces text) = text := by
  rw [← String.toList_inj, String.toList_intercalate, String.toList_ofList, map_toList_pieces,
    intercalate_split]

theorem markerFree_of_mem_pieces {text : String} {l : String} (h : l ∈ pieces text) :
    MarkerFree l.toList := by
  have hm := List.mem_map_of_mem (f := String.toList) h
  rw [map_toList_pieces] at hm
  exact markerFree_of_mem_split _ hm

theorem pieces_intercalate {literals : List String} (hn : literals ≠ [])
    (hf : ∀ l ∈ literals, MarkerFree l.toList) :
    pieces ((String.ofList marker).intercalate literals) = literals := by
  obtain ⟨l, ls, rfl⟩ := List.exists_cons_of_ne_nil hn
  have hs : split (marker.intercalate ((l :: ls).map String.toList)) =
      (l.toList, ls.map String.toList) := split_intercalate (List.forall_mem_map.2 hf)
  refine List.map_injective_iff.2 (fun _ _ => String.toList_injective) ?_
  rw [map_toList_pieces, String.toList_intercalate, String.toList_ofList, hs]
  rfl

example : pieces "$$\x7b\x7d\x7b\x7d$\x7b\x7d$\x7b" = ["$", "\x7b\x7d", "$\x7b"] := by decide

/-- A text is read as a template exactly if there is one slot for each of its markers; its literals
are free of markers, and joined with markers they are the text. Literals that are free of markers
are read back from the text that they make. -/
theorem parse_and_intercalate_inverse :
    (∀ (text : String) (slots : List (Slot P)),
      (slots.length = markerCount text.toList →
        ∃ t, parse text slots = .ok t ∧ (∀ l ∈ t.literals, MarkerFree l.toList) ∧
          (String.ofList marker).intercalate t.literals = text ∧ t.slots = slots) ∧
      (slots.length ≠ markerCount text.toList →
        parse text slots = .error ⟨markerCount text.toList + 1, slots.length⟩)) ∧
    ∀ (literals : List String) (slots : List (Slot P)), literals.length = slots.length + 1 →
      (∀ l ∈ literals, MarkerFree l.toList) →
        ∃ t, parse ((String.ofList marker).intercalate literals) slots = .ok t ∧
          ofParts literals slots = .ok t ∧ t.literals = literals ∧ t.slots = slots := by
  refine ⟨fun text slots => ⟨fun h => ?_, fun h => ?_⟩, fun literals slots h hf => ?_⟩
  · have hl : (pieces text).length = slots.length + 1 := by rw [length_pieces, h]
    obtain ⟨t, ht, htl, hts⟩ := exists_ofParts hl
    refine ⟨t, ht, fun l hm => ?_, ?_, hts⟩
    · rw [htl] at hm
      exact markerFree_of_mem_pieces hm
    · rw [htl, intercalate_pieces]
  · have hl : (pieces text).length ≠ slots.length + 1 := by
      rw [length_pieces]
      omega
    rw [parse_eq, ofParts_of_length_ne hl, length_pieces]
  · obtain ⟨t, ht, hp⟩ := exists_ofParts h
    refine ⟨t, ?_, ht, hp⟩
    rw [parse_eq, pieces_intercalate (List.ne_nil_of_length_eq_add_one h) hf, ht]

end Template

end Splice
