import Splice.Value.Identity
import Splice.Value.Literal

namespace Splice

namespace Binary64

theorem isNaN_nan : nan.isNaN = true := by decide

theorem isNaN_of_isZero {x : Binary64} (h : x.isZero = true) : x.isNaN = false := by
  simp only [isZero, beq_iff_eq] at h
  simp [isNaN, h]

theorem isNaN_canonical (x : Binary64) : x.canonical.isNaN = x.isNaN := by
  unfold canonical
  by_cases hn : x.isNaN = true
  · rw [if_pos hn, hn]
    exact isNaN_nan
  · by_cases hz : x.isZero = true
    · rw [if_neg hn, if_pos hz, isNaN_of_isZero hz]
      decide
    · rw [if_neg hn, if_neg hz]

theorem isZero_canonical {x : Binary64} (hn : x.isNaN = false) :
    x.canonical.isZero = x.isZero := by
  unfold canonical
  by_cases hz : x.isZero = true
  · simp only [hn, hz, Bool.false_eq_true, ↓reduceIte]
    decide
  · simp only [hn, hz, Bool.false_eq_true, ↓reduceIte]

theorem canonical_eq_iff (x y : Binary64) :
    x.canonical = y.canonical ↔ (x.isNaN && y.isNaN || x.equals y) = true := by
  cases hx : x.isNaN with
  | true =>
    have hy : x.canonical = y.canonical ↔ y.isNaN = true := by
      constructor
      · intro h
        rw [← isNaN_canonical y, ← h, isNaN_canonical, hx]
      · intro h
        simp [canonical, hx, h]
    simpa [equals, hx] using hy
  | false =>
    simp only [equals, hx, Bool.false_and, Bool.false_or, Bool.not_false, Bool.true_and,
      Bool.or_eq_true, Bool.and_eq_true, decide_eq_true_eq]
    constructor
    · intro h
      have hy : y.isNaN = false := by rw [← isNaN_canonical y, ← h, isNaN_canonical, hx]
      have hz : x.isZero = y.isZero := by
        rw [← isZero_canonical hx, h, isZero_canonical hy]
      cases hz' : x.isZero with
      | true => exact Or.inr ⟨rfl, hz.symm.trans hz'⟩
      | false => exact Or.inl (by simpa [canonical, hx, hy, ← hz, hz'] using h)
    · rintro (rfl | ⟨hx', hy'⟩)
      · rfl
      · simp [canonical, hx, hx', hy', isNaN_of_isZero hy']

theorem text_of_isNaN {x : Binary64} (h : x.isNaN = true) : x.text = "NaN" := by
  rw [text, NumberStyle.render, NumberStyle.chars, h]
  rfl

theorem text_of_isZero {x : Binary64} (h : x.isZero = true) : x.text = "0" := by
  have hi : x.isInfinite = false := by
    simp only [isZero, beq_iff_eq] at h
    simp [isInfinite, h, infinity]
  rw [text, NumberStyle.render, NumberStyle.chars, isNaN_of_isZero h, hi, h]
  rfl

theorem text_canonical (x : Binary64) : x.canonical.text = x.text := by
  unfold canonical
  by_cases hn : x.isNaN = true
  · rw [if_pos hn, text_of_isNaN isNaN_nan, text_of_isNaN hn]
  · by_cases hz : x.isZero = true
    · have h0 : zero.isZero = true := by decide
      rw [if_neg hn, if_pos hz, text_of_isZero h0, text_of_isZero hz]
    · rw [if_neg hn, if_neg hz]

end Binary64

namespace Value

variable {P : Type}

theorem same_iff_identity_eq (v w : Value P) : v.same w = true ↔ v.identity = w.identity := by
  cases v with
  | number x =>
    cases w with
    | number y => simpa [same, identity] using (Binary64.canonical_eq_iff x y).symm
    | _ => simp [same, equals, identity]
  | _ => cases w <;> simp [same, equals, identity, Handle.shares]

theorem literal?_congr {v w : Value P} (h : v.identity = w.identity) : v.literal? = w.literal? := by
  cases v with
  | number x =>
    cases w with
    | number y =>
      have hc : x.canonical = y.canonical := Identity.number.inj h
      have hn : x.isNaN = y.isNaN := by
        rw [← Binary64.isNaN_canonical, hc, Binary64.isNaN_canonical]
      have ht : x.text = y.text := by
        rw [← Binary64.text_canonical, hc, Binary64.text_canonical]
      rw [literal?, literal?, hn, ht]
    | _ => cases h
  | handle g =>
    cases w with
    | handle h => rfl
    | _ => cases h
  | _ => cases w <;> simp_all [identity, literal?]

end Value

end Splice
