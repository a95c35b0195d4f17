import Splice.Decimal
import Splice.Proofs.Rounding

namespace Splice

theorem shiftLeft_mul_pow (n : Nat) : ((1 <<< n : Nat) : ℚ) * (Nat.pow 5 n : Nat) = 10 ^ n := by
  rw [Nat.one_shiftLeft, Nat.pow_eq]
  push_cast
  rw [← mul_pow]
  norm_num

namespace Decimal

open Binary64 (units nearest unitsPerOne Closest)

def toRat (d : Decimal) : ℚ := d.digits * 10 ^ d.exponent

theorem placesPerUnit_pos : 0 < placesPerUnit := by
  unfold placesPerUnit
  generalize 1074 = n
  exact Nat.pow_pos (by decide)

theorem unitsPerOne_mul_placesPerUnit :
    (unitsPerOne : ℚ) * placesPerUnit = 10 ^ (1074 : Int) := by
  have hn : ((1074 : Nat) : Int) = 1074 := rfl
  rw [← hn]
  unfold unitsPerOne placesPerUnit
  generalize 1074 = n
  rw [zpow_natCast]
  exact shiftLeft_mul_pow n

theorem eq_of_neighbour? {below digits : Nat} {belowReads aboveReads prefersBelow : Bool}
    (h : neighbour? below belowReads aboveReads prefersBelow = some digits) :
    (digits = below ∧ belowReads = true) ∨ (digits = below + 1 ∧ aboveReads = true) := by
  cases belowReads <;> cases aboveReads <;> cases prefersBelow <;> simp_all [neighbour?]

theorem readsBack_of_candidate? {tie : Tie} {magnitude place digits : Nat}
    (h : candidate? tie magnitude place = some digits) :
    readsBack magnitude place digits = true := by
  rw [candidate?] at h
  obtain ⟨rfl, hr⟩ | ⟨rfl, hr⟩ := eq_of_neighbour? h
  · exact hr
  · exact hr

theorem search_cases (hit? : Nat → Option Nat) (last place : Nat) :
    hit? (search hit? last place).2 = some (search hit? last place).1 ∨
      search hit? last place = (last, 0) := by
  induction place with
  | zero => exact Or.inr rfl
  | succ place ih =>
    rw [search]
    split
    · next digits h => exact Or.inl h
    · exact ih

/-- What the search finds reads back, if only because the last place holds the exact value. -/
theorem readsBack_search (tie : Tie) {magnitude : Nat} (hm : magnitude ≤ Binary64.infinity)
    (place : Nat) :
    let found := search (candidate? tie magnitude) (places magnitude) place
    nearest (found.1 * 10 ^ found.2) placesPerUnit = magnitude := by
  intro found
  rcases search_cases (candidate? tie magnitude) (places magnitude) place with h | h
  · have hr := readsBack_of_candidate? h
    rw [readsBack, beq_iff_eq] at hr
    exact hr
  · have he := Binary64.nearest_units hm placesPerUnit_pos
    rw [show found = (places magnitude, 0) from h, places]
    simpa using he

theorem toRat_trim (digits : Nat) (exponent : Int) :
    (trim digits exponent).toRat = digits * 10 ^ exponent := by
  fun_induction trim digits exponent with
  | case1 digits exponent h ih =>
    have hd : (digits : ℚ) = (digits / 10 : Nat) * 10 := by
      exact_mod_cast (Nat.div_mul_cancel (Nat.dvd_of_mod_eq_zero h.2)).symm
    rw [ih, hd, zpow_add_one₀ (by norm_num)]
    ring
  | case2 => rfl

theorem toRat_shortest_mul (tie : Tie) (magnitude : Nat) :
    let found := search (candidate? tie magnitude) (places magnitude)
      (leadingPlace (places magnitude))
    (shortest tie magnitude).toRat * 10 ^ (1074 : Int) = found.1 * 10 ^ found.2 := by
  rw [shortest, toRat_trim]
  generalize search _ _ _ = found
  rw [mul_assoc, ← zpow_add₀ (by norm_num), sub_add_cancel, zpow_natCast]

theorem closest_shortest (tie : Tie) {magnitude : Nat} (hm : magnitude ≤ Binary64.infinity) :
    Closest ((shortest tie magnitude).toRat * unitsPerOne) magnitude := by
  have h := readsBack_search tie hm (leadingPlace (places magnitude))
  have hs := toRat_shortest_mul tie magnitude
  dsimp only at h hs
  rw [← Binary64.closest_iff placesPerUnit_pos] at h
  generalize search _ _ _ = found at h hs
  have hp : (placesPerUnit : ℚ) ≠ 0 := by exact_mod_cast placesPerUnit_pos.ne'
  have he : (shortest tie magnitude).toRat * unitsPerOne =
      (found.1 * 10 ^ found.2 : Nat) / placesPerUnit := by
    rw [eq_div_iff hp, mul_assoc, unitsPerOne_mul_placesPerUnit, hs]
    push_cast
    rfl
  rwa [he]

theorem digits_shortest_ne_zero (tie : Tie) {magnitude : Nat}
    (hm : magnitude ≤ Binary64.infinity) (h0 : magnitude ≠ 0) :
    (shortest tie magnitude).digits ≠ 0 := by
  intro hd
  have h := (closest_shortest tie hm).abs_le 0 (Nat.zero_le _)
  rw [toRat, hd, Nat.cast_zero, zero_mul, zero_mul, sub_zero, sub_zero, Binary64.units_zero,
    Nat.cast_zero, abs_zero, abs_nonpos_iff, Nat.cast_eq_zero, ← Binary64.units_zero] at h
  exact h0 (Binary64.units_strictMono.injective h)

end Decimal

end Splice
