import Mathlib.Data.List.DropRight
import Splice.Proofs.MinimalDecimal
import Splice.Proofs.NumberLiteral

namespace Splice

theorem dropWhile_zeros {ds : List Char} (h : ds.head? ≠ some '0') (n : Nat) :
    (List.replicate n '0' ++ ds).dropWhile (· == '0') = ds := by
  rw [List.dropWhile_append_of_pos fun c hc => beq_iff_eq.2 (List.eq_of_mem_replicate hc)]
  cases ds with
  | nil => rfl
  | cons c ds =>
    apply List.dropWhile_cons_of_neg
    rw [beq_iff_eq]
    rintro rfl
    exact h rfl

namespace Numeral

open Binary64 (Rounds)

/-- The digits of a numeral without the zeros before the first other digit and after the last. -/
def significant (n : Numeral) : List Char :=
  ((n.whole ++ n.fraction.getD []).dropWhile (· == '0')).rdropWhile (· == '0')

theorem getLast?_toDigits {n : Nat} (h : n % 10 ≠ 0) : (Nat.toDigits 10 n).getLast? ≠ some '0' := by
  rw [Nat.toDigits_eq_if (by decide)]
  split
  · next hn =>
    rw [Nat.mod_eq_of_lt hn] at h
    simpa using h
  · simpa using h

section

variable {ds : List Char} (hn : ds ≠ []) (hh : ds.head? ≠ some '0') (hl : ds.getLast? ≠ some '0')

include hn hh hl

theorem significant_of_zeros {n : Numeral} (before after : Nat)
    (h : n.whole ++ n.fraction.getD [] =
      List.replicate before '0' ++ (ds ++ List.replicate after '0')) : n.significant = ds := by
  have hh' : (ds ++ List.replicate after '0').head? ≠ some '0' := by
    rwa [List.head?_append_of_ne_nil _ hn]
  have hl' : ds.reverse.head? ≠ some '0' := by rwa [List.head?_reverse]
  rw [significant, h, dropWhile_zeros hh', List.rdropWhile, List.reverse_append,
    List.reverse_replicate, dropWhile_zeros hl', List.reverse_reverse]

theorem significant_plainNumeral (negative : Bool) (exponent : Int) :
    (NumberStyle.plainNumeral negative ds exponent).significant = ds := by
  unfold NumberStyle.plainNumeral
  dsimp only
  split_ifs with h1 h2
  · exact significant_of_zeros hn hh hl 0 exponent.toNat (by simp)
  · exact significant_of_zeros hn hh hl 0 0 (by simp)
  · apply significant_of_zeros hn hh hl ((-(ds.length + exponent)).toNat + 1) 0
    rw [List.replicate_succ]
    simp

theorem significant_exponentNumeral (negative : Bool) (exponent : Int) :
    (NumberStyle.exponentNumeral negative ds exponent).significant = ds := by
  apply significant_of_zeros hn hh hl 0 0
  unfold NumberStyle.exponentNumeral
  dsimp only
  split_ifs with h
  · rw [Option.getD_none, List.take_of_length_le h, List.append_nil]
    simp
  · rw [Option.getD_some, List.take_append_drop]
    simp

end

def HasDigits (k : Nat) (q : ℚ) : Prop := ∃ d : Decimal, d.digits < 10 ^ k ∧ |q| = d.toRat

/-- A numeral that rounds to a number and has no more digits than that takes. Of the decimals with
so many digits that round to the number none is closer to it, and one that is as close is smaller
in magnitude. -/
structure Shortest (n : Numeral) (x : Binary64) : Prop where
  rounds : Rounds n.toRat x
  hasDigits : HasDigits n.significant.length n.toRat
  length_le : ∀ k q, HasDigits k q → Rounds q x → n.significant.length ≤ k
  abs_le : ∀ q, HasDigits n.significant.length q → Rounds q x →
    |n.toRat - x.value| ≤ |q - x.value|
  lt_of_tie : ∀ q, HasDigits n.significant.length q → Rounds q x →
    |q - x.value| = |n.toRat - x.value| → q ≠ n.toRat → |q| < |n.toRat|

end Numeral

namespace Binary64

open Numeral

variable {x : Binary64}

theorem abs_sub_value {q : ℚ} (h : x.negative = true ↔ q < 0) :
    |q - x.value| = |(|q| - units x.magnitude / unitsPerOne)| := by
  by_cases hq : q < 0
  · rw [value_of_negative (h.2 hq), abs_of_neg hq, ← abs_neg]
    congr 1
    ring
  · rw [value_of_not_negative (mt h.1 hq), abs_of_nonneg (not_lt.1 hq)]

theorem Rounds.eq_of_abs_eq {q r : ℚ} (hq : Rounds q x) (hr : Rounds r x) (h : |q| = |r|) :
    q = r := by
  have hs : q < 0 ↔ r < 0 := hq.negative_iff.symm.trans hr.negative_iff
  by_cases hq0 : q < 0
  · rwa [abs_of_neg hq0, abs_of_neg (hs.1 hq0), neg_inj] at h
  · rwa [abs_of_nonneg (not_lt.1 hq0), abs_of_nonneg (not_lt.1 (mt hs.2 hq0))] at h

theorem abs_toRat_numeral (hz : x.isZero = false) :
    |x.numeral.toRat| = (Decimal.shortest NumberStyle.source.tie x.magnitude).toRat := by
  have hp : 0 ≤ (Decimal.shortest NumberStyle.source.tie x.magnitude).toRat :=
    mul_nonneg (Nat.cast_nonneg _) (zpow_nonneg (by norm_num) _)
  have hs : |signFactor x.negative| = 1 := by cases x.negative <;> simp [signFactor]
  rw [toRat_numeral hz, abs_mul, hs, one_mul, abs_of_nonneg hp]

section

variable (hx : x.isFinite = true) (hz : x.isZero = false)

include hx hz

theorem significant_numeral : x.numeral.significant =
    Nat.toDigits 10 (Decimal.shortest NumberStyle.source.tie x.magnitude).digits := by
  have hm := le_infinity_of_isFinite hx
  have h0 := magnitude_ne_zero hz
  have hh := head?_toDigits (Decimal.digits_shortest_ne_zero NumberStyle.source.tie hm h0)
  have hl := getLast?_toDigits (Decimal.digits_shortest_mod_ne NumberStyle.source.tie hm h0)
  unfold numeral
  dsimp only
  rw [hz, if_neg Bool.false_ne_true]
  split_ifs with hp
  · exact significant_plainNumeral Nat.toDigits_ne_nil hh hl _ _
  · exact significant_exponentNumeral Nat.toDigits_ne_nil hh hl _ _

theorem shortest_numeral : x.numeral.Shortest x := by
  have hm := le_infinity_of_isFinite hx
  have h0 := magnitude_ne_zero hz
  have hr : Rounds x.numeral.toRat x := by
    have h := rounds_numeral hx
    rwa [hz, if_neg Bool.false_ne_true] at h
  have hn := abs_toRat_numeral hz
  have hl := significant_numeral hx hz
  have hclosest : ∀ q, HasDigits x.numeral.significant.length q → Rounds q x →
      |x.numeral.toRat - x.value| ≤ |q - x.value| ∧
        (|q - x.value| = |x.numeral.toRat - x.value| → |q| ≠ |x.numeral.toRat| →
          |q| < |x.numeral.toRat|) := by
    rintro q ⟨d, hd, hq⟩ hqr
    rw [abs_sub_value hr.negative_iff, abs_sub_value hqr.negative_iff, hn, hq]
    rw [hl] at hd
    exact Decimal.shortest_closest hm h0 hd (hq ▸ hqr.closest)
  refine ⟨hr, ⟨_, hl ▸ lt_pow_length_toDigits _, hn⟩, ?_, fun q hq hqr => (hclosest q hq hqr).1, ?_⟩
  · rintro k q ⟨d, hd, hq⟩ hqr
    rw [hl]
    exact Decimal.shortest_minimal _ hm h0 hd (hq ▸ hqr.closest)
  · intro q hq hqr he hne
    exact (hclosest q hq hqr).2 he fun ha => hne (hqr.eq_of_abs_eq hr ha)

end

/-- A printed number has the fewest digits that round to it, and with so many digits it is as close
as any, and the largest of the closest. -/
theorem printed_shortest_and_closest (x : Binary64) (hx : x.isFinite = true)
    (hz : x.isZero = false) :
    ∃ n : Numeral, x.text.toList = n.chars ∧ Numeral.read? x.text.toList = some (n, []) ∧
      n.Shortest x :=
  ⟨x.numeral, toList_text hx, read?_text hx, shortest_numeral hx hz⟩

/-- The number `2 ^ -25` is in the middle between two decimals with the fewest digits. -/
theorem printed_shortest_and_closest_halfway :
    (⟨false, 0x3E60000000000000, by decide⟩ : Binary64).isFinite = true ∧
      (⟨false, 0x3E60000000000000, by decide⟩ : Binary64).isZero = false ∧
      ∃ n : Numeral,
        Numeral.read? (⟨false, 0x3E60000000000000, by decide⟩ : Binary64).text.toList =
          some (n, []) ∧
        n.Shortest ⟨false, 0x3E60000000000000, by decide⟩ := by
  have hx : (⟨false, 0x3E60000000000000, by decide⟩ : Binary64).isFinite = true := by decide
  have hz : (⟨false, 0x3E60000000000000, by decide⟩ : Binary64).isZero = false := by decide
  obtain ⟨n, -, h⟩ := printed_shortest_and_closest _ hx hz
  exact ⟨hx, hz, n, h⟩

end Binary64

end Splice
