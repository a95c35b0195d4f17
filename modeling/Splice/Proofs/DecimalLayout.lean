import Splice.Proofs.SignificantDigits

namespace Splice

namespace NumberStyle

/-- The value `0.ds * 10 ^ point` as it is written: plainly if the point is at most 21 places to
the right and less than 6 to the left of the digits, and with a power of ten otherwise. -/
def layout (ds : List Char) (point : Int) : List Char :=
  if ds.length ≤ point ∧ point ≤ 21 then ds ++ List.replicate (point - ds.length).toNat '0'
  else if 0 < point ∧ point ≤ 21 ∧ point < ds.length then
    ds.take point.toNat ++ '.' :: ds.drop point.toNat
  else if -6 < point ∧ point ≤ 0 then '0' :: '.' :: (List.replicate (-point).toNat '0' ++ ds)
  else
    ds.take 1 ++ (if 1 < ds.length then '.' :: ds.drop 1 else []) ++
      'e' :: (if point - 1 < 0 then '-' else '+') :: Nat.toDigits 10 (point - 1).natAbs

variable {ds : List Char} {exponent : Int}

theorem plainText_eq_layout (h : -6 < ds.length + exponent ∧ ds.length + exponent ≤ 21) :
    plainText false ds exponent = layout ds (ds.length + exponent) := by
  unfold plainText layout
  by_cases h1 : 0 ≤ exponent
  · have hk : (ds.length : Int) ≤ ds.length + exponent ∧ ds.length + exponent ≤ 21 := by omega
    rw [if_pos h1, if_pos hk, add_sub_cancel_left]
    simp
  · have hk : ¬ ((ds.length : Int) ≤ ds.length + exponent ∧ ds.length + exponent ≤ 21) := by omega
    rw [if_neg h1, if_neg hk]
    by_cases h2 : 0 < ds.length + exponent
    · rw [if_pos h2, if_pos (by omega)]
    · rw [if_neg h2, if_neg (by omega), if_pos (by omega)]

theorem exponentText_eq_layout (h : ¬ (-6 < ds.length + exponent ∧ ds.length + exponent ≤ 21)) :
    exponentText true ds exponent = layout ds (ds.length + exponent) := by
  generalize hp : (ds.length + exponent : Int) = point at h
  have h1 : ¬ (ds.length ≤ point ∧ point ≤ 21) := by omega
  have h2 : ¬ (0 < point ∧ point ≤ 21 ∧ point < ds.length) := by omega
  have h3 : ¬ (-6 < point ∧ point ≤ 0) := by omega
  have hm : (if ds.length ≤ 1 then ds else ds.take 1 ++ '.' :: ds.drop 1) =
      ds.take 1 ++ (if 1 < ds.length then '.' :: ds.drop 1 else []) := by
    by_cases hl : ds.length ≤ 1
    · rw [if_pos hl, if_neg (not_lt.2 hl), List.take_of_length_le hl, List.append_nil]
    · rw [if_neg hl, if_pos (not_le.1 hl)]
  rw [layout, if_neg h1, if_neg h2, if_neg h3, exponentText, hm, hp]
  by_cases hs : point - 1 < 0
  · rw [if_pos hs, if_pos hs]
    rfl
  · rw [if_neg hs, if_neg hs, if_pos rfl]
    rfl

example : layout ['1', '5'] (-6) = ['1', '.', '5', 'e', '-', '7'] := by decide

end NumberStyle

namespace Decimal

theorem le_toRat {d : Decimal} (h0 : d.digits ≠ 0) :
    (10 : ℚ) ^ ((Nat.toDigits 10 d.digits).length + d.exponent - 1) ≤ d.toRat := by
  have hl := Nat.length_toDigits_pos (b := 10) (n := d.digits)
  have h := pow_le_of_lt_length_toDigits h0 (Nat.sub_lt hl Nat.one_pos)
  calc (10 : ℚ) ^ ((Nat.toDigits 10 d.digits).length + d.exponent - 1)
      = 10 ^ ((Nat.toDigits 10 d.digits).length - 1) * 10 ^ d.exponent := by
        rw [← zpow_natCast, ← zpow_add₀ (by norm_num)]
        congr 1
        omega
    _ ≤ d.digits * 10 ^ d.exponent :=
        mul_le_mul_of_nonneg_right (by exact_mod_cast h) (zpow_nonneg (by norm_num) _)

theorem toRat_lt_iff {d : Decimal} (h0 : d.digits ≠ 0) (p : Int) :
    d.toRat < 10 ^ p ↔ (Nat.toDigits 10 d.digits).length + d.exponent ≤ p := by
  have h1 : (1 : ℚ) < 10 := by norm_num
  constructor
  · intro h
    have hp := (zpow_lt_zpow_iff_right₀ h1).1 ((le_toRat h0).trans_lt h)
    omega
  · intro h
    have hd := mul_zpow_lt (lt_pow_length_toDigits d.digits) d.exponent
    exact hd.trans_le (zpow_le_zpow_right₀ h1.le h)

end Decimal

namespace Binary64

open NumberStyle (source)

theorem closest_ofFraction (num : Nat) {den : Nat} (hd : 0 < den) :
    Closest (num / den * unitsPerOne) (ofFraction num den) := by
  have h := closest_nearest (num * unitsPerOne) hd
  rwa [Nat.cast_mul, mul_div_right_comm] at h

theorem closest_plainBelow : Closest (10 ^ (21 : Int) * unitsPerOne) source.plainBelow := by
  have h := closest_ofFraction 1000000000000000000000 Nat.one_pos
  norm_num at h ⊢
  exact h

theorem closest_plainFrom : Closest (10 ^ (-6 : Int) * unitsPerOne) source.plainFrom := by
  have h := closest_ofFraction 1 (show 0 < 1000000 by decide)
  norm_num at h ⊢
  exact h

theorem units_plainBelow : (units source.plainBelow : ℚ) = 10 ^ (21 : Int) * unitsPerOne := by
  have hr : 7629394531250000 ≤ 2 * binade ∧ binade ≤ 7629394531250000 := by decide
  have hp : ∀ n, units ((17 + n) * binade + 7629394531250000) = 10 ^ 21 * 2 ^ n := by
    intro n
    rw [units_place hr.1 (Or.inr hr.2), Nat.pow_add, ← Nat.mul_assoc]
    rfl
  have hu : (units ((17 + 1074) * binade + 7629394531250000) : ℚ) =
      10 ^ (21 : Int) * unitsPerOne := by
    rw [hp, unitsPerOne, Nat.one_shiftLeft]
    generalize 1074 = n
    push_cast
    rfl
  have hi : (17 + 1074) * binade + 7629394531250000 ≤ infinity := by decide
  have hc := closest_units hi
  rw [hu] at hc
  rw [closest_plainBelow.unique hc, hu]

theorem le_units_plainFrom : (unitsPerOne : ℚ) / 2 ^ 20 ≤ units source.plainFrom := by
  have hp : ∀ n e, e = 52 + n + 20 → units (n * binade + binade) * 2 ^ 20 = 1 <<< e := by
    rintro n e rfl
    rw [units_place (by omega) (Or.inr le_rfl), binade_eq, Nat.one_shiftLeft, Nat.pow_add,
      Nat.pow_add]
  have hu : (units (1002 * binade + binade) : ℚ) = unitsPerOne / 2 ^ 20 := by
    rw [eq_div_iff (by positivity), unitsPerOne, ← hp 1002 1074 rfl, Nat.cast_mul, Nat.cast_pow,
      Nat.cast_ofNat]
  have hi : 1002 * binade + binade ≤ infinity := by decide
  have hle : (units (1002 * binade + binade) : ℚ) ≤ 10 ^ (-6 : Int) * unitsPerOne := by
    rw [hu, div_eq_inv_mul]
    exact mul_le_mul_of_nonneg_right (by norm_num) unitsPerOne_pos.le
  rw [← hu, Nat.cast_le]
  exact units_strictMono.monotone ((closest_units hi).mono closest_plainFrom hle)

end Binary64

namespace Decimal

open Binary64 (units unitsPerOne Closest unitsPerOne_pos)

section

variable {magnitude threshold : Nat} (hm : magnitude ≤ Binary64.infinity) (h0 : magnitude ≠ 0)

include hm

theorem compare_of_closest_power {p : Int} (ht : Closest (10 ^ p * unitsPerOne) threshold) :
    ((shortest .larger magnitude).toRat < 10 ^ p → magnitude ≤ threshold) ∧
      ((10 : ℚ) ^ p ≤ (shortest .larger magnitude).toRat → threshold ≤ magnitude) := by
  have hc := closest_shortest .larger hm
  constructor
  · intro h
    exact hc.mono ht (mul_le_mul_of_nonneg_right h.le unitsPerOne_pos.le)
  · intro h
    exact ht.mono hc (mul_le_mul_of_nonneg_right h unitsPerOne_pos.le)

include h0

/-- A magnitude nearest to a power of ten has one digit, and is no further from its decimal than
from that power. -/
theorem shortest_of_closest_power {p : Int} (h : Closest (10 ^ p * unitsPerOne) magnitude) :
    (Nat.toDigits 10 (shortest .larger magnitude).digits).length = 1 ∧
      |(shortest .larger magnitude).toRat - units magnitude / unitsPerOne| ≤
        |(10 : ℚ) ^ p - units magnitude / unitsPerOne| := by
  have hp : (⟨1, p⟩ : Decimal).toRat = 10 ^ p := by rw [toRat, Nat.cast_one, one_mul]
  rw [← hp] at h ⊢
  have hd : (⟨1, p⟩ : Decimal).digits < 10 ^ 1 := Nat.one_lt_pow one_ne_zero (by decide)
  have hle := shortest_minimal .larger hm h0 hd h
  have hpos := Nat.length_toDigits_pos (b := 10) (n := (shortest .larger magnitude).digits)
  have hl : (Nat.toDigits 10 (shortest .larger magnitude).digits).length = 1 := by omega
  exact ⟨hl, (shortest_closest hm h0 (hl ▸ hd) h).1⟩

/-- A threshold with the value of a power of ten stands between the same decimals. -/
theorem lt_threshold_iff {p : Int} (ht : Closest (10 ^ p * unitsPerOne) threshold)
    (hu : (units threshold : ℚ) = 10 ^ p * unitsPerOne) :
    magnitude < threshold ↔ (shortest .larger magnitude).toRat < 10 ^ p := by
  obtain ⟨hlt, hle⟩ := compare_of_closest_power hm ht
  constructor
  · intro h
    exact not_le.1 fun h' => absurd (hle h') (not_le.2 h)
  · intro h
    apply (hlt h).lt_of_ne
    rintro rfl
    have hc := (shortest_of_closest_power hm h0 ht).2
    rw [hu, mul_div_cancel_right₀ _ unitsPerOne_pos.ne', sub_self, abs_zero, abs_nonpos_iff,
      sub_eq_zero] at hc
    exact h.ne hc

/-- A threshold near `10 ^ -6` also does, if it is nearer to that than to `9 * 10 ^ -7`. -/
theorem threshold_le_iff (ht : Closest (10 ^ (-6 : Int) * unitsPerOne) threshold)
    (hu : (unitsPerOne : ℚ) / 2 ^ 20 ≤ units threshold) :
    threshold ≤ magnitude ↔ (10 : ℚ) ^ (-6 : Int) ≤ (shortest .larger magnitude).toRat := by
  obtain ⟨hlt, hle⟩ := compare_of_closest_power hm ht
  refine ⟨fun h => ?_, hle⟩
  by_contra h'
  have hlow := not_le.1 h'
  obtain rfl := le_antisymm h (hlt hlow)
  -- a smaller decimal with one digit would be further away than the power
  obtain ⟨hl, hc⟩ := shortest_of_closest_power hm h0 ht
  have hd := lt_pow_length_toDigits (shortest .larger threshold).digits
  have hn := (toRat_lt_iff (digits_shortest_ne_zero .larger hm h0) (-6)).1 hlow
  rw [hl] at hd hn
  have hnine : (shortest .larger threshold).toRat ≤ 9 * 10 ^ (-7 : Int) := by
    have h9 : ((shortest .larger threshold).digits : ℚ) ≤ 9 := by
      exact_mod_cast Nat.le_of_lt_succ hd
    have he : (10 : ℚ) ^ (shortest .larger threshold).exponent ≤ 10 ^ (-7 : Int) :=
      zpow_le_zpow_right₀ (by norm_num) (by omega)
    exact mul_le_mul h9 he (zpow_nonneg (by norm_num) _) (by norm_num)
  have hv : (1 / 2 ^ 20 : ℚ) ≤ units threshold / unitsPerOne := by
    rwa [le_div_iff₀ unitsPerOne_pos, one_div_mul_eq_div]
  have hmid := (Binary64.abs_sub_le_iff_of_lt hlow).1 hc
  generalize (units threshold / unitsPerOne : ℚ) = v at hv hmid
  generalize (shortest .larger threshold).toRat = r at hnine hmid
  norm_num at hnine hv hmid
  linarith

end

end Decimal

namespace Binary64

open Numeral NumberStyle

section

variable {x : Binary64} (hx : x.isFinite = true) (hz : x.isZero = false)

include hx hz

theorem plain_iff {decimal : Decimal} (h : Decimal.shortest .larger x.magnitude = decimal) :
    (source.plainFrom ≤ x.magnitude ∧ x.magnitude < source.plainBelow) ↔
      -6 < (Nat.toDigits 10 decimal.digits).length + decimal.exponent ∧
        (Nat.toDigits 10 decimal.digits).length + decimal.exponent ≤ 21 := by
  have hm := le_infinity_of_isFinite hx
  have h0 := magnitude_ne_zero hz
  have hd := Decimal.digits_shortest_ne_zero .larger hm h0
  have hfrom := Decimal.threshold_le_iff hm h0 closest_plainFrom le_units_plainFrom
  have hbelow := Decimal.lt_threshold_iff hm h0 closest_plainBelow units_plainBelow
  rw [h] at hd hfrom hbelow
  rw [hfrom, hbelow, ← not_lt, Decimal.toRat_lt_iff hd, Decimal.toRat_lt_iff hd, not_le]

theorem chars_numeral :
    x.numeral.chars = signText x.negative ++
      layout x.numeral.significant (x.numeral.significant.length +
        (Decimal.shortest source.tie x.magnitude).exponent) := by
  have hs : source.tie = .larger := rfl
  rw [significant_numeral hx hz, numeral, hz, if_neg Bool.false_ne_true, hs]
  generalize hd : Decimal.shortest .larger x.magnitude = decimal
  have hp := plain_iff hx hz hd
  split_ifs with h
  · rw [chars_plainNumeral, plainText_eq_layout (hp.1 h)]
  · rw [chars_exponentNumeral, exponentText_eq_layout (mt hp.2 h)]

omit hx in
theorem negative_iff_value_neg : x.negative = true ↔ x.value < 0 := by
  have h0 := magnitude_ne_zero hz
  have hu : (0 : ℚ) < units x.magnitude / unitsPerOne :=
    div_pos (Nat.cast_pos.2 (units_pos h0)) unitsPerOne_pos
  by_cases hn : x.negative = true
  · rw [value_of_negative hn]
    exact iff_of_true hn (neg_neg_of_pos hu)
  · rw [value_of_not_negative hn]
    exact iff_of_false hn (not_lt.2 hu.le)

end

/-- A printed number is laid out by its own digits and its own point: the digits are those of the
printed decimal without the zeros around them, and the point is where that decimal has it. -/
theorem text_eq_layout (x : Binary64) (hx : x.isFinite = true) (hz : x.isZero = false) :
    ∃ (n : Numeral) (point : Int), Numeral.read? x.text.toList = some (n, []) ∧
      IsDigits n.significant ∧ n.significant.head? ≠ some '0' ∧
      n.significant.getLast? ≠ some '0' ∧
      |n.toRat| = Numeral.value n.significant / 10 ^ n.significant.length * 10 ^ point ∧
      x.text.toList = signText (decide (x.value < 0)) ++ layout n.significant point := by
  have hm := le_infinity_of_isFinite hx
  have h0 := magnitude_ne_zero hz
  have hs := significant_numeral hx hz
  have hsign : decide (x.value < 0) = x.negative :=
    Bool.eq_iff_iff.2 (decide_eq_true_iff.trans (negative_iff_value_neg hz).symm)
  refine ⟨x.numeral,
    x.numeral.significant.length + (Decimal.shortest source.tie x.magnitude).exponent,
    read?_text hx, ?_, ?_, ?_, ?_, ?_⟩
  · exact hs ▸ isDigits_toDigits _
  · exact hs ▸ head?_toDigits (Decimal.digits_shortest_ne_zero source.tie hm h0)
  · exact hs ▸ getLast?_toDigits (Decimal.digits_shortest_mod_ne source.tie hm h0)
  · have h10 : (10 : ℚ) ≠ 0 := by norm_num
    rw [abs_toRat_numeral hz, Decimal.toRat, hs, value_toDigits, zpow_add₀ h10, zpow_natCast,
      ← mul_assoc, div_mul_cancel₀ _ (pow_ne_zero _ h10)]
  · rw [toList_text hx, chars_numeral hx hz, hsign]

theorem text_eq_layout_threshold :
    (⟨false, 0x3EB0C6F7A0B5ED8D, by decide⟩ : Binary64).isFinite = true ∧
      (⟨false, 0x3EB0C6F7A0B5ED8D, by decide⟩ : Binary64).isZero = false ∧
      ∃ (n : Numeral) (point : Int), n.significant.head? ≠ some '0' ∧
        (⟨false, 0x3EB0C6F7A0B5ED8D, by decide⟩ : Binary64).text.toList =
          signText (decide ((⟨false, 0x3EB0C6F7A0B5ED8D, by decide⟩ : Binary64).value < 0)) ++
            layout n.significant point := by
  have hx : (⟨false, 0x3EB0C6F7A0B5ED8D, by decide⟩ : Binary64).isFinite = true := by decide
  have hz : (⟨false, 0x3EB0C6F7A0B5ED8D, by decide⟩ : Binary64).isZero = false := by decide
  obtain ⟨n, point, -, -, hh, -, -, ht⟩ := text_eq_layout _ hx hz
  exact ⟨hx, hz, n, point, hh, ht⟩

end Binary64

end Splice
