import Splice.Proofs.ShortestDecimal

namespace Splice

theorem lt_pow_length_toDigits (n : Nat) : n < 10 ^ (Nat.toDigits 10 n).length :=
  (Nat.length_toDigits_le_iff (by decide) Nat.length_toDigits_pos).1 le_rfl

theorem pow_le_of_lt_length_toDigits {n k : Nat} (hn : n ≠ 0)
    (h : k < (Nat.toDigits 10 n).length) : 10 ^ k ≤ n := by
  obtain rfl | hk := Nat.eq_zero_or_pos k
  · exact Nat.one_le_iff_ne_zero.2 hn
  · by_contra hlt
    have hle := (Nat.length_toDigits_le_iff (b := 10) (by decide) hk).2 (not_le.1 hlt)
    omega

theorem length_toDigits_eq {n k : Nat} (hk : 10 ^ k ≤ n) (hn : n < 10 ^ (k + 1)) :
    (Nat.toDigits 10 n).length = k + 1 := by
  have hle := (Nat.length_toDigits_le_iff (b := 10) (by decide) (Nat.succ_pos k)).2 hn
  have hlt := (Nat.pow_lt_pow_iff_right (by decide)).1 (hk.trans_lt (lt_pow_length_toDigits n))
  omega

namespace Decimal

open Binary64 (units nearest unitsPerOne Closest)

variable {tie : Tie} {magnitude place digits : Nat}

/-- So many last places are nearer to `magnitude` than to any other. -/
def Reads (magnitude : Nat) (q : ℚ) : Prop := Closest (q / placesPerUnit) magnitude

theorem placesPerUnit_cast_pos : (0 : ℚ) < placesPerUnit := Nat.cast_pos.2 placesPerUnit_pos

theorem readsBack_iff :
    readsBack magnitude place digits = true ↔ Reads magnitude (digits * 10 ^ place) := by
  have he : (digits * 10 ^ place : ℚ) = (digits * Nat.pow 10 place : Nat) := by
    rw [Nat.pow_eq]
    push_cast
    rfl
  rw [readsBack, beq_iff_eq, ← Binary64.closest_iff placesPerUnit_pos, Reads, he]

theorem reads_places (hm : magnitude ≤ Binary64.infinity) : Reads magnitude (places magnitude) := by
  have h := Binary64.closest_units hm
  rwa [Reads, places, Nat.cast_mul, mul_div_cancel_right₀ _ placesPerUnit_cast_pos.ne']

theorem Reads.convex {q r s : ℚ} (hq : Reads magnitude q) (hs : Reads magnitude s) (hqr : q ≤ r)
    (hrs : r ≤ s) : Reads magnitude r :=
  Closest.convex hq hs (div_le_div_of_nonneg_right hqr placesPerUnit_cast_pos.le)
    (div_le_div_of_nonneg_right hrs placesPerUnit_cast_pos.le)

theorem not_reads_zero (h0 : magnitude ≠ 0) : ¬ Reads magnitude 0 := by
  intro h
  rw [Reads, zero_div] at h
  have hz := Binary64.closest_units (Nat.zero_le Binary64.infinity)
  rw [Binary64.units_zero, Nat.cast_zero] at hz
  exact h0 (h.unique hz)

def below (magnitude place : Nat) : Nat := places magnitude / 10 ^ place

theorem neighbour?_eq_none {low : Nat} {belowReads aboveReads prefersBelow : Bool}
    (h : neighbour? low belowReads aboveReads prefersBelow = none) :
    belowReads = false ∧ aboveReads = false := by
  cases belowReads <;> cases aboveReads <;> simp_all [neighbour?]

theorem candidate?_eq (tie : Tie) (magnitude place : Nat) :
    candidate? tie magnitude place =
      neighbour? (below magnitude place) (readsBack magnitude place (below magnitude place))
        (readsBack magnitude place (below magnitude place + 1))
        (takesBelow tie (below magnitude place) (places magnitude % 10 ^ place) (10 ^ place)) := by
  rw [candidate?, Nat.pow_eq]
  rfl

theorem below_mul_le (magnitude place : Nat) :
    (below magnitude place * 10 ^ place : ℚ) ≤ places magnitude := by
  exact_mod_cast Nat.div_mul_le_self (places magnitude) (10 ^ place)

theorem lt_above_mul (magnitude place : Nat) :
    (places magnitude : ℚ) < (below magnitude place + 1 : Nat) * 10 ^ place := by
  exact_mod_cast Nat.lt_mul_of_div_lt (Nat.lt_succ_self _) (Nat.pow_pos (by decide))

def Outside (magnitude place : Nat) (q : ℚ) : Prop :=
  q ≤ below magnitude place * 10 ^ place ∨ (below magnitude place + 1 : Nat) * 10 ^ place ≤ q

theorem outside_of_grid (magnitude place j : Nat) : Outside magnitude place (j * 10 ^ place) := by
  have hp : (0 : ℚ) ≤ 10 ^ place := by positivity
  obtain h | h := Nat.lt_or_ge (below magnitude place) j
  · exact Or.inr (mul_le_mul_of_nonneg_right (by exact_mod_cast h) hp)
  · exact Or.inl (mul_le_mul_of_nonneg_right (by exact_mod_cast h) hp)

section

variable (hm : magnitude ≤ Binary64.infinity) {q : ℚ} (hq : Reads magnitude q)

include hm hq

theorem reads_below (h : q ≤ below magnitude place * 10 ^ place) :
    Reads magnitude (below magnitude place * 10 ^ place) :=
  hq.convex (reads_places hm) h (below_mul_le magnitude place)

theorem reads_above (h : (below magnitude place + 1 : Nat) * 10 ^ place ≤ q) :
    Reads magnitude ((below magnitude place + 1 : Nat) * 10 ^ place) :=
  (reads_places hm).convex hq (lt_above_mul magnitude place).le h

theorem candidate?_ne_none (ho : Outside magnitude place q) :
    candidate? tie magnitude place ≠ none := by
  intro h
  rw [candidate?_eq] at h
  have hn := neighbour?_eq_none h
  obtain ho | ho := ho
  · exact Bool.false_ne_true (hn.1.symm.trans (readsBack_iff.2 (reads_below hm hq ho)))
  · exact Bool.false_ne_true (hn.2.symm.trans (readsBack_iff.2 (reads_above hm hq ho)))

end

theorem two_mul_rest_lt_iff (magnitude place : Nat) :
    2 * (places magnitude % 10 ^ place) < 10 ^ place ↔
      (places magnitude : ℚ) - below magnitude place * 10 ^ place <
        (below magnitude place + 1 : Nat) * 10 ^ place - places magnitude := by
  have h : (places magnitude : ℚ) = 10 ^ place * below magnitude place +
      (places magnitude % 10 ^ place : Nat) := by
    exact_mod_cast (Nat.div_add_mod (places magnitude) (10 ^ place)).symm
  have hlt : 2 * (places magnitude % 10 ^ place) < 10 ^ place ↔
      2 * ((places magnitude % 10 ^ place : Nat) : ℚ) < 10 ^ place := by exact_mod_cast Iff.rfl
  rw [hlt, h]
  push_cast
  constructor <;> intro h' <;> linarith

theorem larger_candidate?_cases (h : candidate? .larger magnitude place = some digits) :
    (digits = below magnitude place ∧
        (Reads magnitude ((below magnitude place + 1 : Nat) * 10 ^ place) →
          (places magnitude : ℚ) - below magnitude place * 10 ^ place <
            (below magnitude place + 1 : Nat) * 10 ^ place - places magnitude)) ∨
      (digits = below magnitude place + 1 ∧
        (Reads magnitude (below magnitude place * 10 ^ place) →
          ((below magnitude place + 1 : Nat) * 10 ^ place - places magnitude : ℚ) ≤
            places magnitude - below magnitude place * 10 ^ place)) := by
  rw [candidate?_eq, takesBelow] at h
  rw [← readsBack_iff, ← readsBack_iff, ← two_mul_rest_lt_iff, ← not_lt, ← two_mul_rest_lt_iff]
  generalize readsBack magnitude place (below magnitude place) = lowReads at h ⊢
  generalize readsBack magnitude place (below magnitude place + 1) = highReads at h ⊢
  by_cases hp : 2 * (places magnitude % 10 ^ place) < 10 ^ place
  · rw [decide_eq_true hp] at h
    cases lowReads <;> cases highReads <;> simp_all [neighbour?]
  · rw [decide_eq_false hp] at h
    cases lowReads <;> cases highReads <;> simp_all [neighbour?]

/-- What is taken on a grid is as near as anything that is not between the two neighbours, and
larger than what is equally near. -/
theorem closest_candidate (hm : magnitude ≤ Binary64.infinity)
    (h : candidate? .larger magnitude place = some digits) {q : ℚ} (hq : Reads magnitude q)
    (ho : Outside magnitude place q) :
    |(digits * 10 ^ place : ℚ) - places magnitude| ≤ |q - places magnitude| ∧
      (|q - places magnitude| = |(digits * 10 ^ place : ℚ) - places magnitude| →
        q ≠ digits * 10 ^ place → q < digits * 10 ^ place) := by
  have hlow := abs_of_nonpos (sub_nonpos.2 (below_mul_le magnitude place))
  have hhigh := abs_of_pos (sub_pos.2 (lt_above_mul magnitude place))
  obtain ho | ho := ho
  · have hr := reads_below hm hq ho
    rw [abs_of_nonpos (sub_nonpos.2 (ho.trans (below_mul_le magnitude place)))]
    obtain ⟨rfl, -⟩ | ⟨rfl, hn⟩ := larger_candidate?_cases h
    · rw [hlow]
      exact ⟨by linarith, fun he hne => absurd (by linarith) hne⟩
    · have hn := hn hr
      rw [hhigh]
      exact ⟨by linarith, fun _ _ => ho.trans_lt (by linarith [lt_above_mul magnitude place])⟩
  · have hr := reads_above hm hq ho
    rw [abs_of_pos (sub_pos.2 ((lt_above_mul magnitude place).trans_le ho))]
    obtain ⟨rfl, hn⟩ | ⟨rfl, -⟩ := larger_candidate?_cases h
    · have hn := hn hr
      rw [hlow]
      exact ⟨by linarith, fun he _ => absurd he (by linarith)⟩
    · rw [hhigh]
      exact ⟨by linarith, fun he hne => absurd (by linarith) hne⟩

/-- The search finds a neighbour on a grid, and none on the coarser grids before it. -/
structure Found (tie : Tie) (magnitude place digits : Nat) : Prop where
  place_le : place ≤ leadingPlace (places magnitude)
  taken : candidate? tie magnitude place = some digits
  coarser : ∀ p, place < p → p ≤ leadingPlace (places magnitude) →
    candidate? tie magnitude p = none

theorem search_le (hit? : Nat → Option Nat) (last place : Nat) :
    (search hit? last place).2 ≤ place := by
  induction place with
  | zero => exact le_rfl
  | succ place ih =>
    rw [search]
    split
    · exact le_rfl
    · exact Nat.le_succ_of_le ih

theorem hit?_of_search_lt {hit? : Nat → Option Nat} {last place p : Nat}
    (h : (search hit? last place).2 < p) (hp : p ≤ place) : hit? p = none := by
  induction place with
  | zero => exact absurd (Nat.zero_lt_of_lt h) (not_lt.2 hp)
  | succ place ih =>
    rw [search] at h
    split at h
    · exact absurd h (not_lt.2 hp)
    · next hn =>
      obtain hp | rfl := Nat.le_succ_iff.1 hp
      · exact ih h hp
      · exact hn

theorem candidate?_zero (tie : Tie) (hm : magnitude ≤ Binary64.infinity) :
    candidate? tie magnitude 0 = some (places magnitude) := by
  have hb : below magnitude 0 = places magnitude := Nat.div_one _
  have hr : readsBack magnitude 0 (places magnitude) = true := by
    rw [readsBack_iff, pow_zero, mul_one]
    exact reads_places hm
  have ht : takesBelow tie (places magnitude) 0 1 = true := by cases tie <;> rfl
  rw [candidate?_eq, hb, hr, pow_zero, Nat.mod_one, ht]
  cases readsBack magnitude 0 (places magnitude + 1) <;> rfl

theorem found_search (tie : Tie) (hm : magnitude ≤ Binary64.infinity) :
    let found := search (candidate? tie magnitude) (places magnitude)
      (leadingPlace (places magnitude))
    Found tie magnitude found.2 found.1 := by
  refine ⟨search_le _ _ _, ?_, fun p hp hl => hit?_of_search_lt hp hl⟩
  obtain h | h := search_cases (candidate? tie magnitude) (places magnitude)
    (leadingPlace (places magnitude))
  · exact h
  · rw [h]
    exact candidate?_zero tie hm

theorem places_ne_zero (h0 : magnitude ≠ 0) : places magnitude ≠ 0 :=
  Nat.mul_ne_zero (Binary64.units_pos h0).ne' placesPerUnit_pos.ne'

theorem pow_leadingPlace_le {n : Nat} (hn : n ≠ 0) : 10 ^ leadingPlace n ≤ n :=
  pow_le_of_lt_length_toDigits hn (Nat.sub_lt Nat.length_toDigits_pos Nat.one_pos)

theorem lt_pow_leadingPlace (n : Nat) : n < 10 ^ (leadingPlace n + 1) := by
  rw [leadingPlace, Nat.sub_add_cancel Nat.length_toDigits_pos]
  exact lt_pow_length_toDigits n

theorem exists_grid {p : Nat} {e : Int} (h : (p : Int) ≤ e) (d : Nat) :
    ∃ j : Nat, (d * 10 ^ e : ℚ) = j * 10 ^ p := by
  obtain ⟨n, hn⟩ := Int.eq_ofNat_of_zero_le (Int.sub_nonneg_of_le h)
  refine ⟨d * 10 ^ n, ?_⟩
  rw [show e = n + p by omega, zpow_add₀ (by norm_num), zpow_natCast, zpow_natCast]
  push_cast
  ring

theorem mul_zpow_lt {d k : Nat} (hd : d < 10 ^ k) (e : Int) : (d * 10 ^ e : ℚ) < 10 ^ (k + e) := by
  rw [zpow_add₀ (by norm_num), zpow_natCast]
  exact mul_lt_mul_of_pos_right (by exact_mod_cast hd) (zpow_pos (by norm_num) e)

theorem trim_of_mod_ne {n : Nat} (h : n % 10 ≠ 0) (exponent : Int) :
    trim n exponent = ⟨n, exponent⟩ := by
  rw [trim, if_neg fun hn => h hn.2]

theorem digits_trim_mod_ne {n : Nat} (hn : n ≠ 0) (exponent : Int) :
    (trim n exponent).digits % 10 ≠ 0 := by
  fun_induction trim n exponent with
  | case1 n exponent h ih => exact ih (by omega)
  | case2 n exponent h => exact fun hm => h ⟨hn, hm⟩

namespace Found

variable (hm : magnitude ≤ Binary64.infinity) (h0 : magnitude ≠ 0)
  (h : Found tie magnitude place digits)

include hm h0 h

omit h0 in
theorem not_reads_coarser {p : Nat} (hp : place < p) (hl : p ≤ leadingPlace (places magnitude))
    (j : Nat) : ¬ Reads magnitude (j * 10 ^ p) :=
  fun hr => candidate?_ne_none hm hr (outside_of_grid magnitude p j) (h.coarser p hp hl)

omit hm in
theorem below_bounds :
    10 ^ (leadingPlace (places magnitude) - place) ≤ below magnitude place ∧
      below magnitude place < 10 ^ (leadingPlace (places magnitude) - place + 1) := by
  have hv := places_ne_zero h0
  have hp : 0 < 10 ^ place := Nat.pow_pos (by decide)
  have hl := h.place_le
  rw [below, Nat.le_div_iff_mul_le hp, Nat.div_lt_iff_lt_mul hp, ← Nat.pow_add, ← Nat.pow_add,
    Nat.sub_add_cancel hl, Nat.add_right_comm, Nat.sub_add_cancel hl]
  exact ⟨pow_leadingPlace_le hv, lt_pow_leadingPlace _⟩

omit hm h0 in
theorem digits_eq : digits = below magnitude place ∨ digits = below magnitude place + 1 := by
  have ht := h.taken
  rw [candidate?_eq] at ht
  obtain ⟨rfl, -⟩ | ⟨rfl, -⟩ := eq_of_neighbour? ht
  · exact Or.inl rfl
  · exact Or.inr rfl

/-- Only the neighbour `10` of the leading place ends in a zero. -/
theorem mod_ne_or_eq :
    digits % 10 ≠ 0 ∨ (digits = 10 ∧ place = leadingPlace (places magnitude)) := by
  by_cases hd : digits % 10 = 0
  · obtain hlt | heq := h.place_le.lt_or_eq
    · have hr := readsBack_iff.1 (readsBack_of_candidate? h.taken)
      have he : (digits * 10 ^ place : ℚ) = (digits / 10 : Nat) * 10 ^ (place + 1) := by
        have hq : (digits : ℚ) = (digits / 10 : Nat) * 10 := by
          exact_mod_cast (Nat.div_mul_cancel (Nat.dvd_of_mod_eq_zero hd)).symm
        rw [hq]
        ring
      rw [he] at hr
      exact absurd hr (not_reads_coarser hm h (Nat.lt_succ_self place) hlt _)
    · have hb := below_bounds h0 h
      have hdig := digits_eq h
      rw [← heq, Nat.sub_self] at hb
      exact Or.inr ⟨by omega, heq⟩
  · exact Or.inl hd

theorem length_trim (exponent : Int) :
    (Nat.toDigits 10 (trim digits exponent).digits).length =
      leadingPlace (places magnitude) - place + 1 := by
  obtain hd | ⟨rfl, hp⟩ := mod_ne_or_eq hm h0 h
  · obtain ⟨hlow, hhigh⟩ := below_bounds h0 h
    have hdig := digits_eq h
    rw [trim_of_mod_ne hd]
    apply length_toDigits_eq
    · dsimp only
      omega
    · -- the next power of ten ends in a zero
      have hz : 10 ^ (leadingPlace (places magnitude) - place + 1) % 10 = 0 := by
        rw [Nat.pow_succ, Nat.mul_mod_left]
      have hne : digits ≠ 10 ^ (leadingPlace (places magnitude) - place + 1) := by
        rintro rfl
        exact hd hz
      dsimp only
      omega
  · have ht : trim 10 exponent = ⟨1, exponent + 1⟩ := by
      rw [trim, if_pos (by decide)]
      exact trim_of_mod_ne (by decide) _
    rw [ht, hp, Nat.sub_self]
    dsimp only
    exact length_toDigits_eq (by decide) (by decide)

/-- Below the leading place, what reads is on no coarser grid and not below the leading power. -/
theorem exponent_le_of_reads (hl : place < leadingPlace (places magnitude)) {d : Nat} {e : Int}
    (hr : Reads magnitude (d * 10 ^ e)) :
    e ≤ place ∧ (10 ^ (leadingPlace (places magnitude) : Int) : ℚ) ≤ d * 10 ^ e := by
  constructor
  · by_contra hlt
    obtain ⟨j, hj⟩ := exists_grid (show ((place + 1 : Nat) : Int) ≤ e by omega) d
    rw [hj] at hr
    exact not_reads_coarser hm h (Nat.lt_succ_self place) hl j hr
  · by_contra hlt
    have hv : (10 ^ (leadingPlace (places magnitude) : Int) : ℚ) ≤ places magnitude := by
      rw [zpow_natCast]
      exact_mod_cast pow_leadingPlace_le (places_ne_zero h0)
    have hp := hr.convex (reads_places hm) (not_le.1 hlt).le hv
    rw [zpow_natCast, ← one_mul (10 ^ _), ← Nat.cast_one] at hp
    exact not_reads_coarser hm h hl le_rfl 1 hp

theorem length_le_of_reads {d k : Nat} {e : Int} (hd : d < 10 ^ k)
    (hr : Reads magnitude (d * 10 ^ e)) : leadingPlace (places magnitude) - place + 1 ≤ k := by
  obtain hl | hl := h.place_le.lt_or_eq
  · obtain ⟨he, hle⟩ := exponent_le_of_reads hm h0 h hl hr
    have hlt := (zpow_lt_zpow_iff_right₀ (by norm_num : (1 : ℚ) < 10)).1
      (hle.trans_lt (mul_zpow_lt hd e))
    omega
  · have hk : k ≠ 0 := by
      rintro rfl
      rw [Nat.lt_one_iff.1 hd, Nat.cast_zero, zero_mul] at hr
      exact not_reads_zero h0 hr
    omega

theorem outside_of_reads {d : Nat} {e : Int}
    (hd : d < 10 ^ (leadingPlace (places magnitude) - place + 1))
    (hr : Reads magnitude (d * 10 ^ e)) : Outside magnitude place (d * 10 ^ e) := by
  have hle := h.place_le
  by_cases he : (place : Int) ≤ e
  · obtain ⟨j, hj⟩ := exists_grid he d
    rw [hj]
    exact outside_of_grid magnitude place j
  · -- off the grid, so many digits do not reach the leading place
    have hlt : (d * 10 ^ e : ℚ) < 10 ^ (leadingPlace (places magnitude) : Int) :=
      (mul_zpow_lt hd e).trans_le (zpow_le_zpow_right₀ (by norm_num) (by omega))
    obtain hl | hl := hle.lt_or_eq
    · exact absurd (exponent_le_of_reads hm h0 h hl hr).2 (not_le.2 hlt)
    · have hb := (below_bounds h0 h).1
      rw [← hl, Nat.sub_self, pow_zero] at hb
      rw [← hl, zpow_natCast] at hlt
      have hb' : (1 : ℚ) ≤ below magnitude place := by exact_mod_cast hb
      exact Or.inl (hlt.le.trans (le_mul_of_one_le_left (by positivity) hb'))

end Found

theorem reads_iff (magnitude : Nat) (q : ℚ) :
    Reads magnitude (q * 10 ^ (1074 : Int)) ↔ Closest (q * unitsPerOne) magnitude := by
  have hp := placesPerUnit_cast_pos
  rw [Reads, ← unitsPerOne_mul_placesPerUnit, ← mul_assoc, mul_div_cancel_right₀ _ hp.ne']

theorem units_div_mul (magnitude : Nat) :
    (units magnitude / unitsPerOne : ℚ) * 10 ^ (1074 : Int) = places magnitude := by
  have hu := Binary64.unitsPerOne_pos
  rw [← unitsPerOne_mul_placesPerUnit, ← mul_assoc, div_mul_cancel₀ _ hu.ne', places, Nat.cast_mul]

theorem toRat_mul (d : Decimal) :
    d.toRat * 10 ^ (1074 : Int) = d.digits * 10 ^ (d.exponent + 1074) := by
  rw [toRat, mul_assoc, zpow_add₀ (by norm_num)]

theorem digits_shortest_mod_ne (tie : Tie) (hm : magnitude ≤ Binary64.infinity)
    (h0 : magnitude ≠ 0) : (shortest tie magnitude).digits % 10 ≠ 0 := by
  have hd := digits_shortest_ne_zero tie hm h0
  rw [shortest] at hd ⊢
  apply digits_trim_mod_ne
  intro hz
  rw [hz, trim, if_neg fun h => h.1 rfl] at hd
  exact hd rfl

theorem shortest_minimal (tie : Tie) (hm : magnitude ≤ Binary64.infinity) (h0 : magnitude ≠ 0)
    {d : Decimal} {k : Nat} (hd : d.digits < 10 ^ k)
    (hr : Closest (d.toRat * unitsPerOne) magnitude) :
    (Nat.toDigits 10 (shortest tie magnitude).digits).length ≤ k := by
  have hf := found_search tie hm
  rw [← reads_iff, toRat_mul] at hr
  rw [shortest, hf.length_trim hm h0]
  exact hf.length_le_of_reads hm h0 hd hr

/-- Of the decimals with as many digits that read back, none is nearer to the value, and one that is
as near is smaller. -/
theorem shortest_closest (hm : magnitude ≤ Binary64.infinity) (h0 : magnitude ≠ 0)
    {d : Decimal}
    (hd : d.digits < 10 ^ (Nat.toDigits 10 (shortest .larger magnitude).digits).length)
    (hr : Closest (d.toRat * unitsPerOne) magnitude) :
    |(shortest .larger magnitude).toRat - units magnitude / unitsPerOne| ≤
        |d.toRat - units magnitude / unitsPerOne| ∧
      (|d.toRat - units magnitude / unitsPerOne| =
          |(shortest .larger magnitude).toRat - units magnitude / unitsPerOne| →
        d.toRat ≠ (shortest .larger magnitude).toRat →
        d.toRat < (shortest .larger magnitude).toRat) := by
  have hf := found_search .larger hm
  have hp : (0 : ℚ) < 10 ^ (1074 : Int) := zpow_pos (by norm_num) _
  have hs := toRat_shortest_mul .larger magnitude
  rw [shortest, hf.length_trim hm h0] at hd
  rw [← reads_iff, toRat_mul] at hr
  have ho := hf.outside_of_reads hm h0 hd hr
  have hc := closest_candidate hm hf.taken hr ho
  rw [← toRat_mul, ← hs] at hc
  have hscale : ∀ a b : ℚ, |a * 10 ^ (1074 : Int) - b * 10 ^ (1074 : Int)| =
      |a - b| * 10 ^ (1074 : Int) := fun a b => by rw [← sub_mul, abs_mul, abs_of_pos hp]
  rwa [← units_div_mul, hscale, hscale, mul_le_mul_iff_left₀ hp, mul_left_inj' hp.ne', Ne,
    mul_left_inj' hp.ne', mul_lt_mul_iff_left₀ hp] at hc

end Decimal

end Splice
