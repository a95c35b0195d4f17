import Splice.Proofs.Identity
import Splice.Proofs.Numeral
import Splice.Proofs.ShortestDecimal

namespace Splice

namespace NumberStyle

open Numeral

def plainNumeral (negative : Bool) (ds : List Char) (exponent : Int) : Numeral :=
  let point := ds.length + exponent
  if 0 ≤ exponent then ⟨negative, ds ++ List.replicate exponent.toNat '0', none, none⟩
  else if 0 < point then ⟨negative, ds.take point.toNat, some (ds.drop point.toNat), none⟩
  else ⟨negative, ['0'], some (List.replicate (-point).toNat '0' ++ ds), none⟩

def exponentNumeral (negative : Bool) (ds : List Char) (exponent : Int) : Numeral :=
  let power := ds.length + exponent - 1
  ⟨negative, ds.take 1, if ds.length ≤ 1 then none else some (ds.drop 1),
    some (decide (power < 0), Nat.toDigits 10 power.natAbs)⟩

theorem chars_plainNumeral (negative : Bool) (ds : List Char) (exponent : Int) :
    (plainNumeral negative ds exponent).chars =
      signText negative ++ plainText false ds exponent := by
  unfold plainNumeral plainText
  by_cases h1 : 0 ≤ exponent <;> by_cases h2 : 0 < (ds.length : Int) + exponent <;>
    simp [Numeral.chars, fractionChars, powerChars, h1, h2]

theorem chars_exponentNumeral (negative : Bool) (ds : List Char) (exponent : Int) :
    (exponentNumeral negative ds exponent).chars =
      signText negative ++ exponentText true ds exponent := by
  unfold exponentNumeral exponentText
  generalize (ds.length : Int) + exponent - 1 = power
  by_cases hl : ds.length ≤ 1 <;> by_cases hp : power < 0 <;>
    simp [Numeral.chars, fractionChars, powerChars, hl, hp, List.take_of_length_le]

theorem isDigits_of_sublist {ds es : List Char} (hd : IsDigits ds) (hs : es.Sublist ds)
    (hn : es ≠ []) : IsDigits es :=
  ⟨hn, fun c hc => hd.isDigit c (hs.subset hc)⟩

section

variable {ds : List Char} (hd : IsDigits ds) (h0 : ds.head? ≠ some '0')

include hd h0

theorem wellFormed_plainNumeral (negative : Bool) (exponent : Int) :
    (plainNumeral negative ds exponent).WellFormed := by
  have hz : ∀ n, ∀ c ∈ List.replicate n '0', c.isDigit = true :=
    fun n c hc => isDigit_of_mem_replicate hc
  unfold plainNumeral
  dsimp only
  split_ifs with h1 h2
  · refine ⟨⟨by simp [hd.ne_nil], ?_⟩, Or.inr ?_, by simp, by simp⟩
    · intro c hc
      exact (List.mem_append.1 hc).elim (hd.isDigit c) (hz _ c)
    · rwa [List.head?_append_of_ne_nil _ hd.ne_nil]
  · generalize hk : (ds.length + exponent).toNat = k
    have ht : ds.take k ≠ [] := List.ne_nil_of_length_pos (by rw [List.length_take]; omega)
    have hr : ds.drop k ≠ [] := List.ne_nil_of_length_pos (by rw [List.length_drop]; omega)
    refine ⟨isDigits_of_sublist hd (List.take_sublist k ds) ht, Or.inr ?_, ?_, by simp⟩
    · rwa [List.head?_take, if_neg (by omega)]
    · rintro _ ⟨rfl⟩
      exact isDigits_of_sublist hd (List.drop_sublist k ds) hr
  · refine ⟨⟨by simp, by simp⟩, Or.inl rfl, ?_, by simp⟩
    rintro _ ⟨rfl⟩
    refine ⟨by simp [hd.ne_nil], fun c hc => ?_⟩
    exact (List.mem_append.1 hc).elim (hz _ c) (hd.isDigit c)

theorem wellFormed_exponentNumeral (negative : Bool) (exponent : Int) :
    (exponentNumeral negative ds exponent).WellFormed := by
  obtain ⟨c, cs, rfl⟩ := List.exists_cons_of_ne_nil hd.ne_nil
  refine ⟨isDigits_of_sublist hd (List.take_sublist 1 _) (List.cons_ne_nil c _), Or.inl rfl, ?_, ?_⟩
  · intro es he
    obtain ⟨hl, he⟩ := Option.ite_none_left_eq_some.1 he
    obtain rfl := Option.some.inj he
    refine isDigits_of_sublist hd (List.drop_sublist 1 _) (List.ne_nil_of_length_pos ?_)
    rw [List.length_drop]
    omega
  · rintro _ ⟨rfl⟩
    exact isDigits_toDigits _

end

theorem toRat_plainNumeral (negative : Bool) (ds : List Char) (exponent : Int) :
    (plainNumeral negative ds exponent).toRat =
      signFactor negative * value ds * 10 ^ exponent := by
  unfold plainNumeral
  dsimp only
  split_ifs with h1 h2
  · obtain ⟨k, rfl⟩ := Int.eq_ofNat_of_zero_le h1
    have hv : value (ds ++ List.replicate k '0' ++ []) = value ds * 10 ^ k := by
      rw [List.append_nil, value_append, value_zeros, List.length_replicate, Nat.add_zero]
    calc _ = signFactor negative * (value ds * 10 ^ k : Nat) * 10 ^ (0 : Int) := toRat_eq hv rfl
      _ = signFactor negative * value ds * 10 ^ (k : Int) := by
        rw [Nat.cast_mul, Nat.cast_pow, Nat.cast_ofNat, zpow_zero, mul_one, mul_assoc, zpow_natCast]
  · refine toRat_eq ?_ ?_
    · rw [Option.getD_some, List.take_append_drop]
    · simp only [powerValue, Option.getD_some, List.length_drop]
      omega
  · refine toRat_eq ?_ ?_
    · rw [Option.getD_some, ← List.append_assoc, value_append, List.singleton_append,
        ← List.replicate_succ, value_zeros, Nat.zero_mul, Nat.zero_add]
    · simp only [powerValue, Option.getD_some, List.length_append, List.length_replicate]
      omega

theorem powerValue_exponentNumeral (negative : Bool) (ds : List Char) (exponent : Int) :
    (exponentNumeral negative ds exponent).powerValue = ds.length + exponent - 1 := by
  unfold exponentNumeral powerValue
  dsimp only
  generalize (ds.length : Int) + exponent - 1 = power
  by_cases hp : power < 0
  · rw [decide_eq_true hp]
    dsimp only
    rw [value_toDigits]
    omega
  · rw [decide_eq_false hp]
    dsimp only
    rw [value_toDigits]
    omega

theorem toRat_exponentNumeral (negative : Bool) {ds : List Char} (hd : ds ≠ []) (exponent : Int) :
    (exponentNumeral negative ds exponent).toRat =
      signFactor negative * value ds * 10 ^ exponent := by
  obtain ⟨c, cs, rfl⟩ := List.exists_cons_of_ne_nil hd
  have hf : (exponentNumeral negative (c :: cs) exponent).fraction.getD [] = cs := by
    cases cs <;> rfl
  refine toRat_eq ?_ ?_
  · rw [hf]
    rfl
  · rw [hf, powerValue_exponentNumeral, List.length_cons]
    omega

end NumberStyle

namespace Binary64

open Numeral NumberStyle

def numeral (x : Binary64) : Numeral :=
  let decimal := Decimal.shortest source.tie x.magnitude
  let ds := Nat.toDigits 10 decimal.digits
  if x.isZero then ⟨false, ['0'], none, none⟩
  else if source.plainFrom ≤ x.magnitude ∧ x.magnitude < source.plainBelow then
    plainNumeral x.negative ds decimal.exponent
  else exponentNumeral x.negative ds decimal.exponent

variable {x : Binary64}

theorem le_infinity_of_isFinite (hx : x.isFinite = true) : x.magnitude ≤ infinity :=
  (of_decide_eq_true hx).le

theorem magnitude_ne_zero (hz : x.isZero = false) : x.magnitude ≠ 0 := beq_eq_false_iff_ne.1 hz

theorem isNaN_of_isFinite (hx : x.isFinite = true) : x.isNaN = false :=
  (isNaN_eq_false_iff x).2 (le_infinity_of_isFinite hx)

theorem toList_text (hx : x.isFinite = true) : x.text.toList = x.numeral.chars := by
  have hi : x.isInfinite = false := by
    rw [isInfinite, beq_eq_false_iff_ne]
    exact (of_decide_eq_true hx).ne
  rw [text, render, String.toList_ofList, NumberStyle.chars, isNaN_of_isFinite hx, hi, numeral]
  cases hz : x.isZero with
  | true => rfl
  | false =>
    simp only [Bool.false_eq_true, ↓reduceIte, magnitudeText]
    split
    · exact (chars_plainNumeral _ _ _).symm
    · exact (chars_exponentNumeral _ _ _).symm

theorem wellFormed_numeral (hx : x.isFinite = true) : x.numeral.WellFormed := by
  unfold numeral
  dsimp only
  split_ifs with hz hp
  · exact ⟨⟨by simp, by simp⟩, Or.inl rfl, by simp, by simp⟩
  all_goals
    have hd := Decimal.digits_shortest_ne_zero source.tie (le_infinity_of_isFinite hx)
      (magnitude_ne_zero (eq_false_of_ne_true hz))
  · exact wellFormed_plainNumeral (isDigits_toDigits _) (head?_toDigits hd) _ _
  · exact wellFormed_exponentNumeral (isDigits_toDigits _) (head?_toDigits hd) _ _

theorem read?_text (hx : x.isFinite = true) :
    Numeral.read? x.text.toList = some (x.numeral, []) := by
  have h := read?_append (wellFormed_numeral hx) ends_nil
  rwa [List.append_nil, ← toList_text hx] at h

theorem toRat_numeral (hz : x.isZero = false) :
    x.numeral.toRat =
      signFactor x.negative * (Decimal.shortest source.tie x.magnitude).toRat := by
  unfold numeral
  dsimp only
  rw [Decimal.toRat, ← mul_assoc]
  split_ifs with hz' hp
  · rw [hz] at hz'
    cases hz'
  · rw [toRat_plainNumeral, value_toDigits]
  · rw [toRat_exponentNumeral _ Nat.toDigits_ne_nil, value_toDigits]

theorem toRat_numeral_of_isZero (hz : x.isZero = true) : x.numeral.toRat = 0 := by
  have h : x.numeral.toRat = signFactor false * (0 : Nat) * 10 ^ (0 : Int) := by
    rw [numeral, if_pos hz]
    exact toRat_eq rfl rfl
  rw [h, Nat.cast_zero, mul_zero, zero_mul]

/-- The numeral rounds to the number; to the positive zero if the number is zero. -/
theorem rounds_numeral (hx : x.isFinite = true) :
    Rounds x.numeral.toRat (if x.isZero then zero else x) := by
  have hm := le_infinity_of_isFinite hx
  rw [rounds_iff]
  cases hz : x.isZero with
  | true =>
    have h0 := closest_units (Nat.zero_le infinity)
    rw [units_zero, Nat.cast_zero] at h0
    rw [if_pos rfl, toRat_numeral_of_isZero hz, abs_zero, zero_mul]
    exact ⟨by simp [zero], h0⟩
  | false =>
    have hd := Decimal.digits_shortest_ne_zero source.tie hm (magnitude_ne_zero hz)
    have hp : 0 < (Decimal.shortest source.tie x.magnitude).toRat :=
      mul_pos (Nat.cast_pos.2 (Nat.pos_of_ne_zero hd)) (zpow_pos (by norm_num) _)
    rw [if_neg Bool.false_ne_true, toRat_numeral hz]
    have hc := Decimal.closest_shortest source.tie hm
    cases hn : x.negative with
    | true =>
      rw [signFactor, if_pos rfl, neg_one_mul, abs_neg, abs_of_pos hp]
      exact ⟨by simpa using hp, hc⟩
    | false =>
      rw [signFactor, if_neg Bool.false_ne_true, one_mul, abs_of_pos hp]
      exact ⟨by simpa using hp.le, hc⟩

theorem canonical_of_isZero (hz : x.isZero = true) : x.canonical = zero := by
  rw [canonical, isNaN_of_isZero hz, if_neg Bool.false_ne_true, if_pos hz]

end Binary64

namespace Value

open Binary64 (Rounds)

/-- What is written as a number literal is a decimal numeral, and its exact value rounds to that
number and to no other; the two zeros are written as one, and read as the positive one. -/
theorem number_literal_read_back {P : Type} (x : Binary64) (hx : x.isFinite = true) :
    ∃ n : Numeral, (number x : Value P).literal? = some x.text ∧
      n.WellFormed ∧ x.text.toList = n.chars ∧ Numeral.read? x.text.toList = some (n, []) ∧
      (∀ y, Rounds n.toRat y ↔ y = if x.isZero then .zero else x) ∧
      ∀ y, Rounds n.toRat y → (number y : Value P).same (.number x) = true := by
  have hr := Binary64.rounds_numeral hx
  have hiff : ∀ y, Rounds x.numeral.toRat y ↔ y = if x.isZero then .zero else x := by
    intro y
    constructor
    · intro hy
      exact hy.unique hr
    · rintro rfl
      exact hr
  refine ⟨x.numeral, ?_, Binary64.wellFormed_numeral hx, Binary64.toList_text hx,
    Binary64.read?_text hx, hiff, ?_⟩
  · rw [literal?, Binary64.isNaN_of_isFinite hx, if_neg Bool.false_ne_true]
  · intro y hy
    rw [(hiff y).1 hy, same_iff_identity_eq, identity, identity]
    cases hz : x.isZero with
    | true => rw [if_pos rfl, Binary64.canonical_of_isZero hz, Binary64.canonical_of_isZero (by rfl)]
    | false => rw [if_neg Bool.false_ne_true]

theorem number_literal_read_back_leastNegative :
    (⟨true, 1, by decide⟩ : Binary64).isFinite = true ∧
      ∃ n : Numeral, (number ⟨true, 1, by decide⟩ : Value).literal? =
          some (⟨true, 1, by decide⟩ : Binary64).text ∧
        ∀ y, Rounds n.toRat y ↔ y = ⟨true, 1, by decide⟩ := by
  have hx : (⟨true, 1, by decide⟩ : Binary64).isFinite = true := by decide
  obtain ⟨n, hl, -, -, -, hr, -⟩ := number_literal_read_back (P := Payload) _ hx
  exact ⟨hx, n, hl, hr⟩

end Value

end Splice
