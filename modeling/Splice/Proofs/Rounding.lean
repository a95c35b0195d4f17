import Mathlib.Algebra.Order.Field.Rat
import Mathlib.Data.Nat.Cast.Order.Field
import Mathlib.Order.Monotone.Basic
import Mathlib.Tactic.FieldSimp
import Mathlib.Tactic.Linarith
import Mathlib.Tactic.Positivity
import Mathlib.Tactic.Ring
import Splice.Binary64

namespace Splice

namespace Binary64

theorem binade_eq : binade = 2 ^ 52 := by decide

theorem binade_pos : 0 < binade := by decide

theorem units_place {s r : Nat} (hr : r ≤ 2 * binade) (hs : s = 0 ∨ binade ≤ r) :
    units (s * binade + r) = r * 2 ^ s := by
  have hb := binade_pos
  by_cases hlt : r < binade
  · obtain rfl : s = 0 := hs.resolve_right (by omega)
    rw [Nat.zero_mul, Nat.zero_add, units, if_pos hlt, Nat.pow_zero, Nat.mul_one]
  · obtain ⟨f, rfl⟩ := Nat.exists_eq_add_of_le (Nat.le_of_not_lt hlt)
    have hge : ¬ s * binade + (binade + f) < binade := by omega
    rw [units, if_neg hge, Nat.shiftLeft_eq]
    by_cases hf : f < binade
    · have hdiv : (s * binade + (binade + f)) / binade = s + 1 := by
        rw [← Nat.add_assoc, ← Nat.succ_mul, Nat.mul_comm, Nat.mul_add_div hb,
          Nat.div_eq_of_lt hf, Nat.add_zero]
      have hmod : (s * binade + (binade + f)) % binade = f := by
        rw [← Nat.add_assoc, ← Nat.succ_mul, Nat.mul_comm, Nat.mul_add_mod, Nat.mod_eq_of_lt hf]
      rw [hdiv, hmod, Nat.add_sub_cancel]
    · obtain rfl : f = binade := by omega
      have he : s * binade + (binade + binade) = (s + 2) * binade := by ring
      rw [he, Nat.mul_mod_left, Nat.mul_div_cancel _ hb]
      have hs1 : s + 2 - 1 = s + 1 := by omega
      rw [hs1, pow_succ]
      ring

theorem exists_place (m : Nat) :
    ∃ s r, m = s * binade + r ∧ r < 2 * binade ∧ (s = 0 ∨ binade ≤ r) := by
  have hb := binade_pos
  by_cases hlt : m < binade
  · exact ⟨0, m, by omega, by omega, Or.inl rfl⟩
  · have hd := Nat.div_add_mod m binade
    have hm := Nat.mod_lt m hb
    have hq : 1 ≤ m / binade := (Nat.le_div_iff_mul_le hb).2 (by omega)
    obtain ⟨s, hs⟩ := Nat.exists_eq_add_of_le hq
    refine ⟨s, binade + m % binade, ?_, by omega, Or.inr (by omega)⟩
    rw [hs] at hd
    linarith

theorem units_zero : units 0 = 0 := by decide

theorem units_lt_succ (m : Nat) : units m < units (m + 1) := by
  obtain ⟨s, r, rfl, hr, hs⟩ := exists_place m
  rw [Nat.add_assoc, units_place hr.le hs, units_place hr (hs.imp_right fun h => by omega),
    Nat.add_one_mul]
  exact Nat.lt_add_of_pos_right (Nat.two_pow_pos s)

theorem units_strictMono : StrictMono units := strictMono_nat_of_lt_succ units_lt_succ

theorem units_pos {m : Nat} (h : m ≠ 0) : 0 < units m := by
  rw [← units_zero]
  exact units_strictMono (Nat.pos_of_ne_zero h)

/-- A value is on the grid of spacing `2 ^ s`, or below the binade where that grid begins. -/
theorem units_on_grid_or_lt (m s : Nat) :
    (∃ j, units m = j * 2 ^ s) ∨ (s ≠ 0 ∧ units m < binade * 2 ^ s) := by
  obtain ⟨s', r, rfl, hr, hs⟩ := exists_place m
  rw [units_place hr.le hs]
  by_cases h : s ≤ s'
  · refine Or.inl ⟨r * 2 ^ (s' - s), ?_⟩
    rw [Nat.mul_assoc, ← Nat.pow_add, Nat.sub_add_cancel h]
  · refine Or.inr ⟨by omega, ?_⟩
    have hp : 2 ^ (s' + 1) ≤ 2 ^ s := Nat.pow_le_pow_right (by decide) (by omega)
    calc r * 2 ^ s' < 2 * binade * 2 ^ s' := Nat.mul_lt_mul_of_pos_right hr (Nat.two_pow_pos s')
      _ = binade * 2 ^ (s' + 1) := by ring
      _ ≤ binade * 2 ^ s := Nat.mul_le_mul_left binade hp

theorem roundHalfEven_spec (num : Nat) {den : Nat} (hd : 0 < den) :
    |(roundHalfEven num den : ℚ) - num / den| ≤ 1 / 2 ∧
      (|(roundHalfEven num den : ℚ) - num / den| = 1 / 2 → roundHalfEven num den % 2 = 0) := by
  have hdq : (0 : ℚ) < den := by exact_mod_cast hd
  have hnum : (num : ℚ) / den = (num / den : Nat) + ((num % den : Nat) : ℚ) / den := by
    have h : (num : ℚ) = den * (num / den : Nat) + (num % den : Nat) := by
      exact_mod_cast (Nat.div_add_mod num den).symm
    rw [h]
    field_simp
  have hhalf : 2 * (num % den) < den ↔ ((num % den : Nat) : ℚ) / den < 1 / 2 := by
    rw [div_lt_div_iff₀ hdq two_pos, one_mul, mul_comm]
    exact_mod_cast Iff.rfl
  have htie : 2 * (num % den) = den ↔ ((num % den : Nat) : ℚ) / den = 1 / 2 := by
    rw [div_eq_div_iff hdq.ne' two_ne_zero, one_mul, mul_comm]
    exact_mod_cast Iff.rfl
  have h0 : (0 : ℚ) ≤ ((num % den : Nat) : ℚ) / den := by positivity
  have h1 : ((num % den : Nat) : ℚ) / den < 1 := by
    rw [div_lt_one hdq]
    exact_mod_cast Nat.mod_lt num hd
  unfold roundHalfEven
  split_ifs with h
  · rw [hhalf, htie] at h
    rw [hnum, sub_add_cancel_left, abs_neg, abs_of_nonneg h0]
    rcases h with h | h
    · exact ⟨h.le, fun he => absurd he h.ne⟩
    · exact ⟨h.1.le, fun _ => h.2⟩
  · rw [hhalf, htie] at h
    rw [hnum, Nat.cast_add, Nat.cast_one, add_sub_add_left_eq_sub, abs_of_pos (by linarith)]
    constructor
    · by_contra hc
      exact h (Or.inl (by linarith))
    · -- a half is only taken up from an odd number
      intro he
      have hodd : ¬ num / den % 2 = 0 := fun hn => h (Or.inr ⟨by linarith, hn⟩)
      omega

theorem div_le_roundHalfEven (num den : Nat) : num / den ≤ roundHalfEven num den := by
  unfold roundHalfEven
  split <;> omega

theorem roundHalfEven_le (num den : Nat) : roundHalfEven num den ≤ num / den + 1 := by
  unfold roundHalfEven
  split <;> omega

theorem lt_spacing (n : Nat) : n < 2 * binade * 2 ^ spacing n := by
  calc n < 2 ^ (n.log2 + 1) := Nat.lt_log2_self
    _ ≤ 2 ^ (53 + spacing n) := Nat.pow_le_pow_right (by decide) (by unfold spacing; omega)
    _ = 2 * binade * 2 ^ spacing n := by rw [binade_eq]; ring

theorem spacing_le {n : Nat} (h : spacing n ≠ 0) : binade * 2 ^ spacing n ≤ n := by
  have hl : 52 + spacing n = n.log2 := by unfold spacing at *; omega
  have hn : n ≠ 0 := by
    rintro rfl
    simp [spacing] at h
  rw [binade_eq, ← Nat.pow_add, hl]
  exact Nat.log2_self_le hn

/-- How far `num / den` is from a value on its own grid, against the value it is rounded to. -/
theorem abs_grid_sub_le (num : Nat) {den : Nat} (hd : 0 < den) (s j : Nat) :
    |(roundHalfEven num (den * 2 ^ s) * 2 ^ s : ℚ) - num / den| ≤ |(j * 2 ^ s : ℚ) - num / den| ∧
      (|(j * 2 ^ s : ℚ) - num / den| = |(roundHalfEven num (den * 2 ^ s) * 2 ^ s : ℚ) - num / den| →
        j ≠ roundHalfEven num (den * 2 ^ s) → roundHalfEven num (den * 2 ^ s) % 2 = 0) := by
  have hp : (0 : ℚ) < 2 ^ s := by positivity
  have hdq : (den : ℚ) ≠ 0 := by exact_mod_cast hd.ne'
  have hs : ∀ r : Nat, |(r * 2 ^ s : ℚ) - num / den| =
      |(r : ℚ) - num / (den * 2 ^ s : Nat)| * 2 ^ s := by
    intro r
    have he : (r * 2 ^ s : ℚ) - num / den = (r - num / (den * 2 ^ s : Nat)) * 2 ^ s := by
      push_cast
      field_simp
    rw [he, abs_mul, abs_of_pos hp]
  obtain ⟨hle, htie⟩ := roundHalfEven_spec num (Nat.mul_pos hd (Nat.two_pow_pos s))
  rw [hs, hs, mul_le_mul_iff_left₀ hp, mul_left_inj' hp.ne']
  generalize roundHalfEven num (den * 2 ^ s) = r at *
  generalize (num : ℚ) / (den * 2 ^ s : Nat) = t at *
  -- two whole numbers are a step apart, and `r` is at most half of it away
  have hfar : j ≠ r → 1 / 2 ≤ |(j : ℚ) - t| := by
    intro hj
    have h1 : (1 : ℚ) ≤ |(j : ℚ) - r| := by
      have h := Int.one_le_abs (sub_ne_zero.2 (Int.natCast_inj.not.2 hj))
      exact_mod_cast h
    have h2 := abs_sub_le (j : ℚ) t r
    rw [abs_sub_comm t] at h2
    linarith
  by_cases hj : j = r
  · subst hj
    exact ⟨le_rfl, fun _ hne => absurd rfl hne⟩
  · have hf := hfar hj
    exact ⟨hle.trans hf, fun he _ => htie (le_antisymm hle (he ▸ hf))⟩

/-- Rounding on the grid of `num / den` takes a value that no magnitude is nearer than. -/
theorem abs_units_sub (num : Nat) {den : Nat} (hd : 0 < den) {s r : Nat}
    (hs : s = spacing (num / den)) (hr : r = roundHalfEven num (den * 2 ^ s)) (k : Nat) :
    |(r * 2 ^ s : ℚ) - num / den| ≤ |(units k : ℚ) - num / den| ∧
      (|(units k : ℚ) - num / den| = |(r * 2 ^ s : ℚ) - num / den| →
        units k ≠ r * 2 ^ s → r % 2 = 0) := by
  have hgrid := abs_grid_sub_le num hd s
  rw [← hr] at hgrid
  rcases units_on_grid_or_lt k s with ⟨j, hj⟩ | ⟨h0, hlt⟩
  · rw [hj, Nat.cast_mul, Nat.cast_pow, Nat.cast_ofNat]
    exact ⟨(hgrid j).1, fun he hne => (hgrid j).2 he fun hjr => hne (by rw [hjr])⟩
  · -- the beginning of the binade, itself on the grid, lies between the two values
    have hb : (binade * 2 ^ s : ℚ) ≤ num / den := by
      have hn : binade * 2 ^ s ≤ num / den := hs ▸ spacing_le (hs ▸ h0)
      calc (binade * 2 ^ s : ℚ) ≤ (num / den : Nat) := by exact_mod_cast hn
        _ ≤ num / den := Nat.cast_div_le
    have hu : (units k : ℚ) < binade * 2 ^ s := by exact_mod_cast hlt
    have hfar : |(r * 2 ^ s : ℚ) - num / den| < |(units k : ℚ) - num / den| := by
      refine (hgrid binade).1.trans_lt ?_
      rw [abs_of_nonpos (by linarith), abs_of_neg (by linarith)]
      linarith
    exact ⟨hfar.le, fun he => absurd he hfar.ne'⟩

/-- No magnitude up to infinity is nearer to `u` units than `m`, and if another one is as near then
`m` is even. Infinity counts as the power of two that comes after all finite magnitudes. -/
structure Closest (u : ℚ) (m : Nat) : Prop where
  le_infinity : m ≤ infinity
  abs_le : ∀ k ≤ infinity, |(units m : ℚ) - u| ≤ |(units k : ℚ) - u|
  even_of_tie : ∀ k ≤ infinity, k ≠ m → |(units k : ℚ) - u| = |(units m : ℚ) - u| → m % 2 = 0

theorem units_infinity_le {s : Nat} (hs : 2046 ≤ s) : units infinity ≤ binade * 2 ^ s := by
  have h1 := Nat.mul_le_mul_right binade hs
  have h2 : infinity = 2047 * binade := by decide
  calc units infinity ≤ units (s * binade + binade) := units_strictMono.monotone (by omega)
    _ = binade * 2 ^ s := units_place (by omega) (Or.inr le_rfl)

theorem closest_infinity {u : ℚ} (h : (units infinity : ℚ) ≤ u) : Closest u infinity := by
  have hk : ∀ k ≤ infinity, |(units k : ℚ) - u| = u - units k := by
    intro k hk
    have hle : (units k : ℚ) ≤ units infinity := by exact_mod_cast units_strictMono.monotone hk
    rw [abs_of_nonpos (by linarith), neg_sub]
  refine ⟨le_rfl, fun k hki => ?_, fun k hki hne he => ?_⟩
  · have hle : (units k : ℚ) ≤ units infinity := by exact_mod_cast units_strictMono.monotone hki
    rw [hk k hki, hk infinity le_rfl]
    linarith
  · rw [hk k hki, hk infinity le_rfl, sub_right_inj, Nat.cast_inj] at he
    exact absurd (units_strictMono.injective he) hne

theorem nearest_eq (num den : Nat) :
    nearest num den = min infinity (spacing (num / den) * binade +
      roundHalfEven num (den * 2 ^ spacing (num / den))) := by
  rw [nearest, Nat.shiftLeft_eq]

theorem roundHalfEven_bounds {num den s r : Nat} (hs : s = spacing (num / den))
    (hr : r = roundHalfEven num (den * 2 ^ s)) : r ≤ 2 * binade ∧ (s = 0 ∨ binade ≤ r) := by
  have hp := Nat.two_pow_pos s
  have hlt : num / den / 2 ^ s < 2 * binade := by
    rw [Nat.div_lt_iff_lt_mul hp, hs]
    exact lt_spacing _
  have hup := roundHalfEven_le num (den * 2 ^ s)
  have hlow := div_le_roundHalfEven num (den * 2 ^ s)
  rw [← hr, ← Nat.div_div_eq_div_mul] at hup hlow
  refine ⟨by omega, or_iff_not_imp_left.2 fun h0 => ?_⟩
  have hle : binade * 2 ^ s ≤ num / den := hs ▸ spacing_le (hs ▸ h0)
  exact ((Nat.le_div_iff_mul_le hp).2 hle).trans hlow

theorem le_spacing_of_infinity_lt {s r : Nat} (hr : r ≤ 2 * binade)
    (h : infinity < s * binade + r) : 2046 ≤ s := by
  by_contra hc
  have h1 := Nat.mul_le_mul_right binade (show s ≤ 2045 by omega)
  have h2 : infinity = 2047 * binade := by decide
  omega

theorem closest_nearest (num : Nat) {den : Nat} (hd : 0 < den) :
    Closest (num / den) (nearest num den) := by
  rw [nearest_eq]
  generalize hs : spacing (num / den) = s
  generalize hr : roundHalfEven num (den * 2 ^ s) = r
  obtain ⟨hr2, hr1⟩ := roundHalfEven_bounds hs.symm hr.symm
  by_cases hi : s * binade + r ≤ infinity
  · rw [min_eq_right hi]
    have hu := units_place hr2 hr1
    have hk := abs_units_sub num hd hs.symm hr.symm
    have hc : (units (s * binade + r) : ℚ) = r * 2 ^ s := by
      rw [hu, Nat.cast_mul, Nat.cast_pow, Nat.cast_ofNat]
    refine ⟨hi, fun k _ => hc ▸ (hk k).1, fun k _ hne he => ?_⟩
    have hm := (hk k).2 (hc ▸ he) fun h => hne (units_strictMono.injective (h.trans hu.symm))
    have hb : binade % 2 = 0 := by decide
    rw [Nat.add_mod, Nat.mul_mod, hb, hm, Nat.mul_zero, Nat.zero_mod]
  · -- all magnitudes are below `num / den`, so the greatest is the nearest
    have hs0 := le_spacing_of_infinity_lt hr2 (not_le.1 hi)
    have hle : binade * 2 ^ s ≤ num / den := hs ▸ spacing_le (by omega)
    rw [min_eq_left (not_le.1 hi).le]
    exact closest_infinity ((Nat.cast_le.2 ((units_infinity_le hs0).trans hle)).trans
      Nat.cast_div_le)

theorem Closest.unique {u : ℚ} {m k : Nat} (hm : Closest u m) (hk : Closest u k) : m = k := by
  by_contra hne
  wlog hlt : m < k generalizing m k
  · exact this hk hm (Ne.symm hne) (by omega)
  have he : |(units m : ℚ) - u| = |(units k : ℚ) - u| :=
    le_antisymm (hm.abs_le k hk.le_infinity) (hk.abs_le m hm.le_infinity)
  have hme := hm.even_of_tie k hk.le_infinity (Ne.symm hne) he.symm
  have hke := hk.even_of_tie m hm.le_infinity hne he
  -- the magnitude between the two even ones would be nearer than either
  have h1 : (units m : ℚ) < units (m + 1) := by exact_mod_cast units_lt_succ m
  have h2 : (units (m + 1) : ℚ) < units k := by
    exact_mod_cast units_strictMono (show m + 1 < k by omega)
  have hc := hm.abs_le (m + 1) ((show m + 1 ≤ k by omega).trans hk.le_infinity)
  rcases abs_cases ((units m : ℚ) - u) with h | h <;>
    rcases abs_cases ((units k : ℚ) - u) with h' | h' <;>
      rcases abs_cases ((units (m + 1) : ℚ) - u) with h'' | h'' <;> linarith

theorem abs_sub_le_iff_of_lt {a b t : ℚ} (h : a < b) : |a - t| ≤ |b - t| ↔ 2 * t ≤ a + b := by
  have he : (b - t) ^ 2 - (a - t) ^ 2 = (b - a) * (a + b - 2 * t) := by ring
  rw [← sq_le_sq, ← sub_nonneg, he, mul_nonneg_iff_of_pos_left (sub_pos.2 h), sub_nonneg]

theorem abs_sub_le_iff_of_gt {a b t : ℚ} (h : b < a) : |a - t| ≤ |b - t| ↔ a + b ≤ 2 * t := by
  have he : (b - t) ^ 2 - (a - t) ^ 2 = (a - b) * (2 * t - (a + b)) := by ring
  rw [← sq_le_sq, ← sub_nonneg, he, mul_nonneg_iff_of_pos_left (sub_pos.2 h), sub_nonneg]

/-- What lies between two values that are rounded to one magnitude is rounded to it as well. -/
theorem Closest.convex {u t w : ℚ} {m : Nat} (hu : Closest u m) (hw : Closest w m) (hut : u ≤ t)
    (htw : t ≤ w) : Closest t m := by
  refine ⟨hu.le_infinity, fun k hk => ?_, fun k hk hne he => ?_⟩
  · rcases lt_trichotomy (units m : ℚ) (units k) with h | h | h
    · have hw' := (abs_sub_le_iff_of_lt h).1 (hw.abs_le k hk)
      exact (abs_sub_le_iff_of_lt h).2 (by linarith)
    · rw [h]
    · have hu' := (abs_sub_le_iff_of_gt h).1 (hu.abs_le k hk)
      exact (abs_sub_le_iff_of_gt h).2 (by linarith)
  · -- in a tie the middle is one of the two ends
    rcases lt_trichotomy (units m : ℚ) (units k) with h | h | h
    · have ht := (abs_sub_le_iff_of_gt h).1 he.le
      have hw' := (abs_sub_le_iff_of_lt h).1 (hw.abs_le k hk)
      obtain rfl : t = w := by linarith
      exact hw.even_of_tie k hk hne he
    · exact absurd (units_strictMono.injective (Nat.cast_inj.1 h)).symm hne
    · have ht := (abs_sub_le_iff_of_lt h).1 he.le
      have hu' := (abs_sub_le_iff_of_gt h).1 (hu.abs_le k hk)
      obtain rfl : t = u := by linarith
      exact hu.even_of_tie k hk hne he

theorem Closest.mono {u w : ℚ} {m k : Nat} (hm : Closest u m) (hk : Closest w k) (h : u ≤ w) :
    m ≤ k := by
  by_contra hlt
  have hu : (units k : ℚ) < units m := by exact_mod_cast units_strictMono (not_le.1 hlt)
  have h1 := (abs_sub_le_iff_of_gt hu).1 (hm.abs_le k hk.le_infinity)
  have h2 := (abs_sub_le_iff_of_lt hu).1 (hk.abs_le m hm.le_infinity)
  obtain rfl : u = w := by linarith
  exact hlt (hm.unique hk).le

theorem closest_iff {num den m : Nat} (hd : 0 < den) :
    Closest (num / den) m ↔ nearest num den = m := by
  constructor
  · intro h
    exact (closest_nearest num hd).unique h
  · rintro rfl
    exact closest_nearest num hd

theorem closest_units {m : Nat} (hm : m ≤ infinity) : Closest (units m) m := by
  refine ⟨hm, fun k _ => ?_, fun k _ hne he => ?_⟩
  · rw [sub_self, abs_zero]
    exact abs_nonneg _
  · rw [sub_self, abs_zero, abs_eq_zero, sub_eq_zero, Nat.cast_inj] at he
    exact absurd (units_strictMono.injective he) hne

theorem nearest_units {m : Nat} (hm : m ≤ infinity) {den : Nat} (hd : 0 < den) :
    nearest (units m * den) den = m := by
  have hdq : (den : ℚ) ≠ 0 := by exact_mod_cast hd.ne'
  rw [← closest_iff hd, Nat.cast_mul, mul_div_cancel_right₀ _ hdq]
  exact closest_units hm

theorem unitsPerOne_pos : (0 : ℚ) < unitsPerOne := by
  unfold unitsPerOne
  generalize 1074 = n
  rw [Nat.cast_pos, Nat.one_shiftLeft]
  exact Nat.two_pow_pos n

/-- The value of a number; infinity counts as `2 ^ 1024`. -/
def value (x : Binary64) : ℚ := x.signedUnits / unitsPerOne

/-- Rounding to nearest, a tie going to the even neighbour: no number has a value nearer to `q`, and
if another one is as near then the last bit of `x` is zero. The sign is that of `q`, so that zero is
the positive one. -/
structure Rounds (q : ℚ) (x : Binary64) : Prop where
  negative_iff : x.negative = true ↔ q < 0
  isNaN : x.isNaN = false
  abs_le : ∀ y : Binary64, y.isNaN = false → |x.value - q| ≤ |y.value - q|
  even_of_tie : ∀ y : Binary64, y.isNaN = false → y.value ≠ x.value →
    |y.value - q| = |x.value - q| → x.magnitude % 2 = 0

theorem isNaN_eq_false_iff (x : Binary64) : x.isNaN = false ↔ x.magnitude ≤ infinity := by
  rw [isNaN, decide_eq_false_iff_not, not_lt]

theorem value_of_negative {x : Binary64} (h : x.negative = true) :
    x.value = -(units x.magnitude / unitsPerOne : ℚ) := by
  rw [value, signedUnits, if_pos h, Int.cast_neg, Int.cast_natCast, neg_div]

theorem value_of_not_negative {x : Binary64} (h : ¬ x.negative = true) :
    x.value = (units x.magnitude / unitsPerOne : ℚ) := by
  rw [value, signedUnits, if_neg h, Int.cast_natCast]

theorem units_div_nonneg (m : Nat) : (0 : ℚ) ≤ units m / unitsPerOne :=
  div_nonneg (Nat.cast_nonneg _) unitsPerOne_pos.le

theorem abs_value_sub {x : Binary64} {q : ℚ} (h : x.negative = true ↔ q < 0) :
    |x.value - q| = |(units x.magnitude : ℚ) - |q| * unitsPerOne| / unitsPerOne := by
  have hp := unitsPerOne_pos
  have he : ∀ a : ℚ, |units x.magnitude / unitsPerOne - a| =
      |(units x.magnitude : ℚ) - a * unitsPerOne| / unitsPerOne := by
    intro a
    rw [← abs_of_pos hp, ← abs_div, abs_of_pos hp, sub_div, mul_div_cancel_right₀ _ hp.ne']
  rw [← he]
  by_cases hq : q < 0
  · rw [value_of_negative (h.2 hq), abs_of_neg hq, ← abs_neg, neg_sub', neg_neg]
  · rw [value_of_not_negative (mt h.1 hq), abs_of_nonneg (not_lt.1 hq)]

theorem abs_value_sub_of_opposite {x : Binary64} {q : ℚ} (h : ¬ (x.negative = true ↔ q < 0)) :
    |x.value - q| = (units x.magnitude + |q| * unitsPerOne : ℚ) / unitsPerOne := by
  have hu := units_div_nonneg x.magnitude
  rw [add_div, mul_div_cancel_right₀ _ unitsPerOne_pos.ne']
  by_cases hq : q < 0
  · have hx : ¬ x.negative = true := fun hx => h (iff_of_true hx hq)
    rw [value_of_not_negative hx, abs_of_neg hq, abs_of_nonneg (sub_nonneg.2 (hq.le.trans hu)),
      sub_eq_add_neg]
  · have hx : x.negative = true := by
      by_contra hx
      exact h (iff_of_false hx hq)
    have hq0 := not_lt.1 hq
    rw [value_of_negative hx, abs_of_nonneg hq0, ← neg_add', abs_neg,
      abs_of_nonneg (add_nonneg hu hq0)]

theorem value_eq_iff {x y : Binary64} (hs : x.negative = y.negative) :
    x.value = y.value ↔ x.magnitude = y.magnitude := by
  rw [← units_strictMono.injective.eq_iff]
  by_cases hx : x.negative = true
  · rw [value_of_negative hx, value_of_negative (hs ▸ hx), neg_inj,
      div_left_inj' unitsPerOne_pos.ne', Nat.cast_inj]
  · rw [value_of_not_negative hx, value_of_not_negative (hs ▸ hx),
      div_left_inj' unitsPerOne_pos.ne', Nat.cast_inj]

def withMagnitude (x : Binary64) (k : Nat) (hk : k ≤ infinity) : Binary64 :=
  ⟨x.negative, k, hk.trans_lt (by decide)⟩

theorem isNaN_withMagnitude (x : Binary64) {k : Nat} (hk : k ≤ infinity) :
    (x.withMagnitude k hk).isNaN = false :=
  (isNaN_eq_false_iff _).2 hk

theorem Rounds.closest {q : ℚ} {x : Binary64} (h : Rounds q x) :
    Closest (|q| * unitsPerOne) x.magnitude := by
  have hp := unitsPerOne_pos
  have hs := abs_value_sub h.negative_iff
  have hk : ∀ k (hk : k ≤ infinity), |(x.withMagnitude k hk).value - q| =
      |(units k : ℚ) - |q| * unitsPerOne| / unitsPerOne :=
    fun k hk => abs_value_sub (x := x.withMagnitude k hk) h.negative_iff
  refine ⟨(isNaN_eq_false_iff x).1 h.isNaN, fun k hki => ?_, fun k hki hne he => ?_⟩
  · have hy := h.abs_le (x.withMagnitude k hki) (isNaN_withMagnitude x hki)
    rwa [hs, hk k hki, div_le_div_iff_of_pos_right hp] at hy
  · refine h.even_of_tie (x.withMagnitude k hki) (isNaN_withMagnitude x hki) ?_ ?_
    · exact mt (value_eq_iff (x := x.withMagnitude k hki) (y := x) rfl).1 hne
    · rw [hs, hk k hki, he]

/-- A magnitude that is the nearest one makes the nearest number, since a number of the other sign
is no nearer than zero. -/
theorem Closest.rounds {q : ℚ} {x : Binary64} (h : Closest (|q| * unitsPerOne) x.magnitude)
    (hx : x.negative = true ↔ q < 0) : Rounds q x := by
  have hp := unitsPerOne_pos
  have hs := abs_value_sub hx
  have hzero : |(units 0 : ℚ) - |q| * unitsPerOne| = |q| * unitsPerOne := by
    rw [units_zero, Nat.cast_zero, zero_sub, abs_neg, abs_of_nonneg (by positivity)]
  have h0 := h.abs_le 0 (Nat.zero_le _)
  rw [hzero] at h0
  refine ⟨hx, (isNaN_eq_false_iff x).2 h.le_infinity, fun y hy => ?_, fun y hy hne he => ?_⟩
  · rw [hs]
    by_cases hys : y.negative = true ↔ q < 0
    · rw [abs_value_sub hys, div_le_div_iff_of_pos_right hp]
      exact h.abs_le _ ((isNaN_eq_false_iff y).1 hy)
    · rw [abs_value_sub_of_opposite hys, div_le_div_iff_of_pos_right hp]
      exact h0.trans (le_add_of_nonneg_left (Nat.cast_nonneg _))
  · rw [hs] at he
    by_cases hys : y.negative = true ↔ q < 0
    · have hsign : y.negative = x.negative := Bool.eq_iff_iff.2 (hys.trans hx.symm)
      rw [abs_value_sub hys, div_left_inj' hp.ne'] at he
      exact h.even_of_tie _ ((isNaN_eq_false_iff y).1 hy) (mt (value_eq_iff hsign).2 hne) he
    · rw [abs_value_sub_of_opposite hys, div_left_inj' hp.ne'] at he
      by_cases hm : x.magnitude = 0
      · rw [hm]
      · have hu : (0 : ℚ) ≤ units y.magnitude := Nat.cast_nonneg _
        exact h.even_of_tie 0 (Nat.zero_le _) (Ne.symm hm) (by rw [hzero]; linarith)

theorem rounds_iff (q : ℚ) (x : Binary64) :
    Rounds q x ↔ (x.negative = true ↔ q < 0) ∧ Closest (|q| * unitsPerOne) x.magnitude :=
  ⟨fun h => ⟨h.negative_iff, h.closest⟩, fun h => h.2.rounds h.1⟩

theorem Rounds.unique {q : ℚ} {x y : Binary64} (hx : Rounds q x) (hy : Rounds q y) : x = y := by
  obtain ⟨hxs, hxc⟩ := (rounds_iff q x).1 hx
  obtain ⟨hys, hyc⟩ := (rounds_iff q y).1 hy
  have hs : x.negative = y.negative := Bool.eq_iff_iff.2 (hxs.trans hys.symm)
  have hm : x.magnitude = y.magnitude := hxc.unique hyc
  obtain ⟨_, _, _⟩ := x
  obtain ⟨_, _, _⟩ := y
  simp_all

end Binary64

end Splice
