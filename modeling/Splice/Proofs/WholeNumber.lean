import Splice.Proofs.DecimalLayout
import Splice.Proofs.DriverFilling
import Splice.Proofs.Inlining

namespace Splice

namespace Binary64

theorem units_scaled {k t n : Nat} (ht : t ≤ n) (hlow : binade ≤ k * 2 ^ t)
    (hhigh : k * 2 ^ t ≤ 2 * binade) : units ((n - t) * binade + k * 2 ^ t) = k * 2 ^ n := by
  rw [units_place hhigh (Or.inr hlow), Nat.mul_assoc, ← Nat.pow_add, Nat.add_sub_cancel' ht]

theorem exists_scale {k : Nat} (h0 : k ≠ 0) (hk : k ≤ 2 ^ 53) :
    ∃ t ≤ 52, binade ≤ k * 2 ^ t ∧ k * 2 ^ t ≤ 2 * binade := by
  obtain hlt | rfl := hk.lt_or_eq
  · have hl : k.log2 ≤ 52 := Nat.le_of_lt_succ ((Nat.log2_lt h0).2 hlt)
    refine ⟨52 - k.log2, Nat.sub_le _ _, ?_, ?_⟩
    · calc binade = 2 ^ k.log2 * 2 ^ (52 - k.log2) := by
            rw [binade_eq, ← Nat.pow_add, Nat.add_sub_cancel' hl]
        _ ≤ k * 2 ^ (52 - k.log2) := Nat.mul_le_mul_right _ (Nat.log2_self_le h0)
    · calc k * 2 ^ (52 - k.log2) ≤ 2 ^ (k.log2 + 1) * 2 ^ (52 - k.log2) :=
            Nat.mul_le_mul_right _ Nat.lt_log2_self.le
        _ = 2 * binade := by
            rw [← Nat.pow_add, Nat.add_right_comm, Nat.add_sub_cancel' hl, Nat.pow_succ, binade_eq,
              Nat.mul_comm]
  · exact ⟨0, Nat.zero_le _, by decide, by decide⟩

/-- The exponent of the unit as a variable, so that nothing computes the power. -/
theorem exists_unitsPerOne_eq : ∃ n, n = 1074 ∧ unitsPerOne = 2 ^ n := by
  have h : ∃ n, n = 1074 ∧ unitsPerOne = 1 <<< n := ⟨1074, rfl, rfl⟩
  simpa only [Nat.one_shiftLeft] using h

theorem exists_units_eq {k : Nat} (hk : k ≤ 2 ^ 53) :
    ∃ m < infinity, units m = k * unitsPerOne := by
  obtain rfl | h0 := Nat.eq_zero_or_pos k
  · exact ⟨0, by decide, by rw [units_zero, Nat.zero_mul]⟩
  · obtain ⟨n, hn, hu⟩ := exists_unitsPerOne_eq
    obtain ⟨t, ht, hlow, hhigh⟩ := exists_scale h0.ne' hk
    have hi : 1074 * binade + 2 * binade < infinity := by decide
    have hs : (n - t) * binade ≤ 1074 * binade := Nat.mul_le_mul_right _ (by omega)
    exact ⟨(n - t) * binade + k * 2 ^ t, (Nat.add_le_add hs hhigh).trans_lt hi,
      hu ▸ units_scaled (by omega) hlow hhigh⟩

theorem exists_units_eq_above : ∃ m ≤ infinity, units m = (2 ^ 53 + 2) * unitsPerOne := by
  obtain ⟨n, hn, hu⟩ := exists_unitsPerOne_eq
  have hb : 2 ^ 53 + 2 = (binade + 1) * 2 := by decide
  have hi : 1075 * binade + (binade + 1) ≤ infinity := by decide
  refine ⟨(n + 1) * binade + (binade + 1), hn ▸ hi, ?_⟩
  rw [units_place (by decide) (Or.inr (Nat.le_succ _)), hb, hu, Nat.mul_assoc, ← Nat.pow_succ']

theorem unitsPerOne_ne_zero : unitsPerOne ≠ 0 :=
  (Nat.cast_pos.1 unitsPerOne_pos).ne'

/-- No other multiple of ten rounds to a whole number up to `2 ^ 53`. -/
theorem eq_of_closest_whole {j k m : Nat} (hk : k ≤ 2 ^ 53) (hm : units m = k * unitsPerOne)
    (hc : Closest (j * unitsPerOne) m) (hj : 10 ∣ j) : j = k := by
  by_cases hle : j ≤ 2 ^ 53
  · obtain ⟨i, hi, hu⟩ := exists_units_eq hle
    have hci := closest_units hi.le
    rw [hu, Nat.cast_mul] at hci
    rw [hc.unique hci, hu] at hm
    exact (Nat.mul_left_inj unitsPerOne_ne_zero).1 hm
  · obtain ⟨i, hi, hu⟩ := exists_units_eq_above
    have hge : 2 ^ 53 + 2 ≤ j := by omega
    have hci := closest_units hi
    have hlt : (units i : ℚ) ≤ j * unitsPerOne := by
      rw [hu]
      exact_mod_cast Nat.mul_le_mul_right unitsPerOne hge
    have hmono := units_strictMono.monotone (hci.mono hc hlt)
    rw [hm, hu] at hmono
    have hjk := Nat.le_of_mul_le_mul_right hmono (Nat.pos_of_ne_zero unitsPerOne_ne_zero)
    omega

end Binary64

namespace Decimal

open Binary64 (units unitsPerOne Closest)

theorem toRat_shortest_of_whole {k m : Nat} (hk : k ≤ 2 ^ 53) (hm : m ≤ Binary64.infinity)
    (hu : units m = k * unitsPerOne) : (shortest .larger m).toRat = k := by
  have hf := found_search .larger hm
  have hs := toRat_shortest_mul .larger m
  dsimp only at hf hs
  generalize search _ _ _ = found at hf hs
  have hv : (places m : ℚ) = k * 10 ^ (1074 : Int) := by
    rw [← units_div_mul, hu, Nat.cast_mul, mul_div_cancel_right₀ _ Binary64.unitsPerOne_pos.ne']
  have hp : (0 : ℚ) < 10 ^ (1074 : Int) := zpow_pos (by norm_num) _
  apply mul_right_cancel₀ hp.ne'
  rw [hs]
  by_cases hle : found.2 ≤ 1074
  · -- the value is on this grid, and nothing is nearer to it than itself
    obtain ⟨j, hj⟩ := exists_grid (Int.ofNat_le.2 hle) k
    have ho := outside_of_grid m found.2 j
    rw [← hj] at ho
    have hc := (closest_candidate hm hf.taken (reads_places hm) (hv ▸ ho)).1
    rw [sub_self, abs_zero, abs_nonpos_iff, sub_eq_zero] at hc
    rw [hc, hv]
  · -- what is found is a multiple of ten
    obtain ⟨n, hn⟩ := Nat.exists_eq_add_of_lt (not_le.1 hle)
    have hr := readsBack_iff.1 (readsBack_of_candidate? hf.taken)
    have he : (found.1 * 10 ^ found.2 : ℚ) =
        (found.1 * 10 ^ (n + 1) : Nat) * 10 ^ (1074 : Int) := by
      have hz : (found.2 : Int) = (n + 1 : Nat) + 1074 := by omega
      rw [← zpow_natCast, hz, zpow_add₀ (by norm_num), zpow_natCast, Nat.cast_mul, Nat.cast_pow,
        Nat.cast_ofNat, mul_assoc]
    rw [he, reads_iff] at hr
    have hd : 10 ∣ found.1 * 10 ^ (n + 1) := Dvd.dvd.mul_left (dvd_pow_self 10 n.succ_ne_zero) _
    rw [he, Binary64.eq_of_closest_whole hk hu hr hd]

theorem exists_exponent_of_whole {d : Decimal} {n : Nat} (hd : d.digits % 10 ≠ 0)
    (h : d.toRat = n) : ∃ e : Nat, d.exponent = e ∧ d.digits * 10 ^ e = n := by
  rw [toRat] at h
  obtain ⟨e, he | he⟩ := Int.eq_nat_or_neg d.exponent
  · rw [he, zpow_natCast] at h
    exact ⟨e, he, by exact_mod_cast h⟩
  · have hz : e = 0 := by
      by_contra he0
      rw [he, zpow_neg, zpow_natCast, ← div_eq_mul_inv, div_eq_iff (by positivity)] at h
      have hn : d.digits = n * 10 ^ e := by exact_mod_cast h
      rw [hn] at hd
      exact hd (Nat.mod_eq_zero_of_dvd (Dvd.dvd.mul_left (dvd_pow_self 10 he0) n))
    subst hz
    rw [he] at h
    exact ⟨0, he, by simpa using h⟩

end Decimal

namespace Numeral

theorem toDigits_mul_pow {n : Nat} (hn : n ≠ 0) (e : Nat) :
    Nat.toDigits 10 (n * 10 ^ e) = Nat.toDigits 10 n ++ List.replicate e '0' := by
  induction e with
  | zero => simp
  | succ e ih =>
    have hp : 0 < n * 10 ^ e := Nat.mul_pos (Nat.pos_of_ne_zero hn) (Nat.pow_pos (by decide))
    have ha := Nat.toDigits_append_toDigits (b := 10) (by decide) hp (show 0 < 10 by decide)
    have he : 10 * (n * 10 ^ e) + 0 = n * 10 ^ (e + 1) := by ring
    rw [← he, ← ha, ih, List.append_assoc, List.replicate_succ']
    rfl

end Numeral

namespace NumberStyle

theorem layout_of_whole {ds : List Char} {e : Nat} (h : (ds.length + e : Int) ≤ 21) :
    layout ds (ds.length + e) = ds ++ List.replicate e '0' := by
  rw [layout, if_pos ⟨by omega, h⟩, add_sub_cancel_left, Int.toNat_natCast]

theorem toList_toString (k : Int) :
    (toString k).toList = signText (decide (k < 0)) ++ Nat.toDigits 10 k.natAbs := by
  rw [Int.toString_eq_repr, Int.repr_eq_if]
  by_cases h : k < 0
  · have ha : (-k).toNat = k.natAbs := by omega
    rw [if_neg (not_le.2 h), decide_eq_true h, String.toList_append, Nat.toList_repr, ha]
    rfl
  · have ha : k.toNat = k.natAbs := by omega
    rw [if_pos (not_lt.1 h), decide_eq_false h, Nat.toList_repr, ha]
    rfl

end NumberStyle

namespace Binary64

open NumberStyle

variable {x : Binary64} {k : Int}

theorem units_of_value (hv : x.value = k) : units x.magnitude = k.natAbs * unitsPerOne := by
  have habs : |x.value| = units x.magnitude / unitsPerOne := by
    by_cases hn : x.negative = true
    · rw [value_of_negative hn, abs_neg, abs_of_nonneg (units_div_nonneg _)]
    · rw [value_of_not_negative hn, abs_of_nonneg (units_div_nonneg _)]
  rw [hv, ← Int.cast_abs, ← Nat.cast_natAbs, eq_div_iff unitsPerOne_pos.ne'] at habs
  exact_mod_cast habs.symm

theorem natAbs_le (hk : |k| ≤ 2 ^ 53) : k.natAbs ≤ 2 ^ 53 := by
  rw [Int.abs_eq_natAbs] at hk
  exact_mod_cast hk

theorem isFinite_of_value (hk : |k| ≤ 2 ^ 53) (hv : x.value = k) : x.isFinite = true := by
  obtain ⟨m, hm, hu⟩ := exists_units_eq (natAbs_le hk)
  rw [isFinite, units_strictMono.injective ((units_of_value hv).trans hu.symm)]
  exact decide_eq_true hm

theorem isZero_iff_value (hv : x.value = k) : x.isZero = true ↔ k = 0 := by
  rw [isZero, beq_iff_eq, ← units_strictMono.injective.eq_iff, units_zero, units_of_value hv,
    Nat.mul_eq_zero, or_iff_left unitsPerOne_ne_zero, Int.natAbs_eq_zero]

theorem layout_numeral (hk : |k| ≤ 2 ^ 53) (hv : x.value = k) (h0 : k ≠ 0) :
    layout x.numeral.significant (x.numeral.significant.length +
        (Decimal.shortest source.tie x.magnitude).exponent) = Nat.toDigits 10 k.natAbs := by
  have hx := isFinite_of_value hk hv
  have hz : x.isZero = false := eq_false_of_ne_true (mt (isZero_iff_value hv).1 h0)
  have hm := le_infinity_of_isFinite hx
  have hd := Decimal.digits_shortest_mod_ne source.tie hm (magnitude_ne_zero hz)
  have hne := Decimal.digits_shortest_ne_zero source.tie hm (magnitude_ne_zero hz)
  have hs : (Decimal.shortest source.tie x.magnitude).toRat = k.natAbs :=
    Decimal.toRat_shortest_of_whole (natAbs_le hk) hm (units_of_value hv)
  have hlt : (Decimal.shortest source.tie x.magnitude).toRat < 10 ^ (21 : Int) := by
    calc (Decimal.shortest source.tie x.magnitude).toRat = k.natAbs := hs
      _ ≤ (2 ^ 53 : Nat) := Nat.cast_le.2 (natAbs_le hk)
      _ < 10 ^ (21 : Int) := by norm_num
  obtain ⟨e, he, hn⟩ := Decimal.exists_exponent_of_whole hd hs
  have hl := (Decimal.toRat_lt_iff hne 21).1 hlt
  rw [he] at hl
  rw [significant_numeral hx hz, he, layout_of_whole hl, ← hn, Numeral.toDigits_mul_pow hne]

theorem text_of_value (hk : |k| ≤ 2 ^ 53) (hv : x.value = k) : x.text = toString k := by
  obtain rfl | h0 := eq_or_ne k 0
  · exact text_of_isZero ((isZero_iff_value hv).2 rfl)
  · have hx := isFinite_of_value hk hv
    have hz : x.isZero = false := eq_false_of_ne_true (mt (isZero_iff_value hv).1 h0)
    have hn : x.negative = decide (k < 0) := by
      rw [Bool.eq_iff_iff, negative_iff_value_neg hz, hv, decide_eq_true_iff, Int.cast_lt_zero]
    apply String.toList_inj.1
    rw [toList_text hx, chars_numeral hx hz, layout_numeral hk hv h0, hn, toList_toString]

theorem value_ofInt (hk : |k| ≤ 2 ^ 53) : (ofInt k).value = k := by
  obtain ⟨m, hm, hu⟩ := exists_units_eq (natAbs_le hk)
  have hr : (ofInt k).magnitude = m := by
    have h := nearest_units hm.le Nat.one_pos
    rwa [Nat.mul_one, hu] at h
  have hv : (units (ofInt k).magnitude / unitsPerOne : ℚ) = k.natAbs := by
    rw [hr, hu, Nat.cast_mul, mul_div_cancel_right₀ _ unitsPerOne_pos.ne']
  by_cases hn : k < 0
  · rw [value_of_negative (decide_eq_true hn), hv, Nat.cast_natAbs, abs_of_neg hn, Int.cast_neg,
      neg_neg]
  · have hs : ¬ (ofInt k).negative = true := mt of_decide_eq_true hn
    rw [value_of_not_negative hs, hv, Nat.cast_natAbs, abs_of_nonneg (not_lt.1 hn)]

end Binary64

namespace Draft

variable {P : Type} {c : Config} {t : Template P}

theorem source_during_item {n : Nat} {literal : String}
    (h : t.segments[n]? = some (n, literal, some .item)) (done : List (Option (Value P)))
    (v : Value P) :
    (during c t done (some v) (n + 1)).source =
      (during c t done (some v) n).source ++ literal ++ v.display := by
  rw [during_succ h]
  rfl

theorem exists_source_passes (passes : List (Option (Value P))) (d : Draft P) :
    ∃ after, (passes.foldl (fun d driver => d.pass c t driver) d).source = d.source ++ after := by
  induction passes generalizing d with
  | nil => exact ⟨"", String.append_empty.symm⟩
  | cons driver passes ih =>
    obtain ⟨after, ha⟩ := ih (d.pass c t driver)
    rw [source_pass d c t driver (KeyTable.Extends.refl _), String.append_assoc] at ha
    exact ⟨_, ha⟩

theorem exists_source_run (done : List (Option (Value P))) (driver : Option (Value P))
    (rest : List (Option (Value P))) (n : Nat) :
    ∃ after, (run c t (done ++ driver :: rest)).source =
      (during c t done driver n).source ++ after := by
  have hs := source_segments c driver (t.segments.drop n) (during c t done driver n)
    (KeyTable.Extends.refl _)
  rw [← run_append_singleton_eq_drop] at hs
  obtain ⟨after, ha⟩ := exists_source_passes (c := c) (t := t) rest (run c t (done ++ [driver]))
  rw [hs, String.append_assoc] at ha
  rw [List.append_cons, run, List.foldl_append]
  exact ⟨_, ha⟩

end Draft

namespace Value

variable {P : Type}

/-- One text stands for a value wherever it is written out. -/
structure WrittenAs (v : Value P) (text : String) : Prop where
  literal : v.literal? = some text
  display : v.display = text
  /-- As a driver, the text follows the literal of every item of its pass, and stays there. -/
  driver : ∀ (c : Config) (t : Template P) (done rest : List (Value P)) (n : Nat)
    (literal : String),
    t.segments[n]? = some (n, literal, some .item) →
    (Draft.during c t (done.map some) (some v) (n + 1)).source =
        (Draft.during c t (done.map some) (some v) n).source ++ literal ++ text ∧
      ∃ after, (c.expandEach (done ++ v :: rest) t).source =
        (Draft.during c t (done.map some) (some v) (n + 1)).source ++ after

theorem writtenAs_display {v : Value P} (h : v.literal? = some v.display) :
    v.WrittenAs v.display := by
  refine ⟨h, rfl, ?_⟩
  intro c t done rest n literal hn
  refine ⟨Draft.source_during_item hn _ v, ?_⟩
  rw [Config.expandEach_eq_run, List.map_append]
  exact Draft.exists_source_run _ _ _ _

theorem writtenAs_ofInt {k : Int} (hk : |k| ≤ 2 ^ 53) :
    (ofInt k : Value P).WrittenAs (toString k) := by
  have hv := Binary64.value_ofInt hk
  have ht : (ofInt k : Value P).display = toString k := Binary64.text_of_value hk hv
  have hn := Binary64.isNaN_of_isFinite (Binary64.isFinite_of_value hk hv)
  rw [← ht]
  exact writtenAs_display (literal?_of_isScalar (by rw [ofInt, isScalar, hn, Bool.not_false]))

theorem writtenAs_of_lt {k : Int} (hlow : -2 ^ 32 ≤ k) (hhigh : k < 2 ^ 32) :
    (ofInt k : Value P).WrittenAs (toString k) :=
  writtenAs_ofInt (abs_le.2 ⟨by omega, by omega⟩)

/-- Whole numbers up to `2 ^ 53` are numbers of their exact value, and a number of such a value is
written as the decimal numeral of it: as a literal, as it is shown, and as a driver. All integers of
up to 32 bits are among them. -/
theorem integers_written_as_numerals :
    (∀ k : Int, |k| ≤ 2 ^ 53 → (Binary64.ofInt k).value = k ∧
      (∀ x : Binary64, x.value = k → x.text = toString k) ∧
      (ofInt k : Value P).WrittenAs (toString k)) ∧
    (∀ n : Int32, (ofInt n.toInt : Value P).WrittenAs (toString n.toInt)) ∧
    (∀ n : UInt32, (ofInt n.toNat : Value P).WrittenAs (toString n.toNat)) ∧
    (∀ n : Int16, (ofInt n.toInt : Value P).WrittenAs (toString n.toInt)) ∧
    (∀ n : UInt16, (ofInt n.toNat : Value P).WrittenAs (toString n.toNat)) ∧
    (∀ n : Int8, (ofInt n.toInt : Value P).WrittenAs (toString n.toInt)) ∧
    ∀ n : UInt8, (ofInt n.toNat : Value P).WrittenAs (toString n.toNat) := by
  refine ⟨?_, ?_, ?_, ?_, ?_, ?_, ?_⟩
  · intro k hk
    exact ⟨Binary64.value_ofInt hk, fun x hv => Binary64.text_of_value hk hv, writtenAs_ofInt hk⟩
  · intro n
    have hlow := n.le_toInt
    have hhigh := n.toInt_lt
    exact writtenAs_of_lt (by omega) (by omega)
  · intro n
    have hhigh := n.toNat_lt
    exact writtenAs_of_lt (by omega) (by omega)
  · intro n
    have hlow := n.le_toInt
    have hhigh := n.toInt_lt
    exact writtenAs_of_lt (by omega) (by omega)
  · intro n
    have hhigh := n.toNat_lt
    exact writtenAs_of_lt (by omega) (by omega)
  · intro n
    have hlow := n.le_toInt
    have hhigh := n.toInt_lt
    exact writtenAs_of_lt (by omega) (by omega)
  · intro n
    have hhigh := n.toNat_lt
    exact writtenAs_of_lt (by omega) (by omega)

def assignedItem : Template := ⟨[("x = ", .item)], ";"⟩

theorem integers_written_as_numerals_least :
    |(-2 ^ 53 : Int)| ≤ 2 ^ 53 ∧ (Binary64.ofInt (-2 ^ 53)).value = (-2 ^ 53 : Int) ∧
      (Binary64.ofInt (-2 ^ 53)).text = "-9007199254740992" ∧
      (ofInt (-2 ^ 53) : Value).literal? = some "-9007199254740992" ∧
      assignedItem.segments[0]? = some (0, "x = ", some .item) ∧
      (Draft.during {} assignedItem [] (some (ofInt (-2 ^ 53))) 1).source =
        (Draft.during {} assignedItem [] (some (ofInt (-2 ^ 53))) 0).source ++ "x = " ++
          "-9007199254740992" := by
  have hk : |(-2 ^ 53 : Int)| ≤ 2 ^ 53 := by decide
  have hs : assignedItem.segments[0]? = some (0, "x = ", some .item) := rfl
  obtain ⟨hv, ht, hw⟩ := (integers_written_as_numerals (P := Payload)).1 _ hk
  exact ⟨hk, hv, ht _ hv, hw.literal, hs, (hw.driver {} assignedItem [] [] 0 _ hs).1⟩

end Value

end Splice
