namespace Splice

namespace CharSet

def ascendingFrom : Nat → List (Nat × Nat) → Bool
  | _, [] => true
  | bound, (first, last) :: rest =>
    decide (bound ≤ first) && decide (first ≤ last) && ascendingFrom (last + 2) rest

def search (n : Nat) : List (Nat × Nat) → Bool
  | [] => false
  | (first, last) :: rest => decide (first ≤ n) && (decide (n ≤ last) || search n rest)

theorem le_of_ascendingFrom {bound : Nat} {rs : List (Nat × Nat)}
    (h : ascendingFrom bound rs = true) : ∀ r ∈ rs, bound ≤ r.1 := by
  induction rs generalizing bound with
  | nil => simp
  | cons r rest ih =>
    obtain ⟨first, last⟩ := r
    simp only [ascendingFrom, Bool.and_eq_true, decide_eq_true_eq] at h
    intro r hr
    rcases List.mem_cons.1 hr with rfl | hr
    · exact h.1.1
    · have := ih h.2 r hr
      omega

theorem search_iff {bound : Nat} {rs : List (Nat × Nat)} (h : ascendingFrom bound rs = true)
    (n : Nat) : search n rs = true ↔ ∃ r ∈ rs, r.1 ≤ n ∧ n ≤ r.2 := by
  induction rs generalizing bound with
  | nil => simp [search]
  | cons r rest ih =>
    obtain ⟨first, last⟩ := r
    simp only [ascendingFrom, Bool.and_eq_true, decide_eq_true_eq] at h
    simp only [search, Bool.and_eq_true, Bool.or_eq_true, decide_eq_true_eq, ih h.2,
      List.mem_cons, exists_eq_or_imp]
    constructor
    · rintro ⟨hf, hl | hr⟩
      · exact .inl ⟨hf, hl⟩
      · exact .inr hr
    · rintro (⟨hf, hl⟩ | ⟨r, hr, hn⟩)
      · exact ⟨hf, .inl hl⟩
      · have := le_of_ascendingFrom h.2 r hr
        exact ⟨by omega, .inr ⟨r, hr, hn⟩⟩

end CharSet

/-- Closed ranges of code points that ascend and lie apart, so that a search can end at the first one
that starts beyond the character. -/
structure CharSet where
  ranges : List (Nat × Nat)
  ascending : CharSet.ascendingFrom 0 ranges = true := by decide +kernel

namespace CharSet

def contains (s : CharSet) (c : Char) : Bool := search c.toNat s.ranges

theorem contains_iff (s : CharSet) (c : Char) :
    s.contains c = true ↔ ∃ r ∈ s.ranges, r.1 ≤ c.toNat ∧ c.toNat ≤ r.2 :=
  search_iff s.ascending c.toNat

end CharSet

end Splice
