import Splice.Proofs.NumberLiteral
import Splice.Proofs.Spacing
import Splice.Proofs.StringLiteral

namespace Splice

namespace Binary64

open NumberStyle

variable {x y : Binary64}

theorem isFinite_or_isInfinite (hx : x.isNaN = false) :
    x.isFinite = true ∨ x.isInfinite = true := by
  rw [isNaN_eq_false_iff] at hx
  rcases hx.lt_or_eq with h | h
  · exact Or.inl (decide_eq_true h)
  · exact Or.inr (beq_iff_eq.2 h)

theorem toList_text_of_isInfinite (hx : x.isInfinite = true) :
    x.text.toList = signText x.negative ++ "Infinity".toList := by
  have hn : x.isNaN = false := by
    rw [isNaN_eq_false_iff]
    exact (beq_iff_eq.1 hx).le
  rw [text, render, String.toList_ofList, NumberStyle.chars, hn, hx]
  rfl

theorem read?_text_of_isInfinite (hx : x.isInfinite = true) : Token.read? x.text.toList = none := by
  rw [toList_text_of_isInfinite hx]
  cases x.negative <;> rfl

theorem canonical_of_isFinite (hx : x.isFinite = true) :
    x.canonical = if x.isZero then zero else x := by
  rw [canonical, isNaN_of_isFinite hx, if_neg Bool.false_ne_true]

/-- Finite numbers with one numeral are one argument, since it rounds to both of them. -/
theorem canonical_eq_of_numeral_eq (hx : x.isFinite = true) (hy : y.isFinite = true)
    (h : x.numeral = y.numeral) : x.canonical = y.canonical := by
  have hr := rounds_numeral hy
  rw [← h] at hr
  rw [canonical_of_isFinite hx, canonical_of_isFinite hy]
  exact (rounds_numeral hx).unique hr

theorem eq_of_text_eq_of_isInfinite (hx : x.isInfinite = true) (hy : y.isInfinite = true)
    (h : x.text = y.text) : x = y := by
  have ht : signText x.negative ++ "Infinity".toList = signText y.negative ++ "Infinity".toList := by
    rw [← toList_text_of_isInfinite hx, ← toList_text_of_isInfinite hy, h]
  have hs : x.negative = y.negative := by
    revert ht
    cases x.negative <;> cases y.negative <;> decide
  have hm : x.magnitude = y.magnitude := (beq_iff_eq.1 hx).trans (beq_iff_eq.1 hy).symm
  obtain ⟨_, _, _⟩ := x
  obtain ⟨_, _, _⟩ := y
  simp_all

end Binary64

namespace Value

open Binary64

variable {P : Type}

def token? : Value P → Option Token
  | .null => some .null
  | .bool b => some (.bool b)
  | .number x => if x.isFinite then some (.number x.numeral) else none
  | .string s => some (.string (some s.toList))
  | .handle _ => none

theorem literal?_number {x : Binary64} {l : String} :
    (number x : Value P).literal? = some l ↔ x.isNaN = false ∧ x.text = l := by
  rw [literal?, Option.ite_none_left_eq_some, Bool.not_eq_true, Option.some_inj]

theorem read?_literal {v : Value P} {l : String} (h : v.literal? = some l) :
    Token.read? l.toList = v.token?.map (·, []) := by
  cases v with
  | null =>
    cases h
    rfl
  | bool b =>
    cases h
    cases b <;> rfl
  | number x =>
    obtain ⟨hn, rfl⟩ := literal?_number.1 h
    rw [token?]
    by_cases hx : x.isFinite = true
    · rw [Token.read?_of_numeral (read?_text hx), if_pos hx, Option.map_some]
    · rw [read?_text_of_isInfinite ((isFinite_or_isInfinite hn).resolve_left hx), if_neg hx,
        Option.map_none]
  | string s =>
    cases h
    have hs := Token.read?_quote s []
    rwa [List.append_nil] at hs
  | handle g => cases h

theorem canonical_eq_of_text_eq {x y : Binary64} (hx : x.isNaN = false) (hy : y.isNaN = false)
    (h : x.text = y.text) : x.canonical = y.canonical := by
  rcases isFinite_or_isInfinite hx with hxf | hxi <;>
    rcases isFinite_or_isInfinite hy with hyf | hyi
  · refine canonical_eq_of_numeral_eq hxf hyf ?_
    have hn := read?_text hxf
    rw [h, read?_text hyf] at hn
    exact (Prod.mk.inj (Option.some.inj hn)).1.symm
  · have hn := Token.read?_of_numeral (read?_text hxf)
    rw [h, read?_text_of_isInfinite hyi] at hn
    cases hn
  · have hn := Token.read?_of_numeral (read?_text hyf)
    rw [← h, read?_text_of_isInfinite hxi] at hn
    cases hn
  · rw [eq_of_text_eq_of_isInfinite hxi hyi h]

theorem identity_eq_of_literal {v w : Value P} {l : String} (hv : v.literal? = some l)
    (hw : w.literal? = some l) : v.identity = w.identity := by
  -- one text is read as one token
  have ht : v.token? = w.token? := by
    have h := (read?_literal hv).symm.trans (read?_literal hw)
    exact Option.map_injective (fun _ _ he => (Prod.mk.inj he).1) h
  cases v <;> cases w
  case number.number x y =>
    obtain ⟨hx, hxl⟩ := literal?_number.1 hv
    obtain ⟨hy, hyl⟩ := literal?_number.1 hw
    exact congrArg Identity.number (canonical_eq_of_text_eq hx hy (hxl.trans hyl.symm))
  case string.string s t =>
    simp only [token?, Option.some.injEq, Token.string.injEq, String.toList_inj] at ht
    rw [ht]
  all_goals simp_all [token?, literal?]

theorem equivalence_same : Equivalence fun v w : Value P => v.same w = true := by
  simp only [same_iff_identity_eq]
  exact ⟨fun _ => rfl, Eq.symm, Eq.trans⟩

theorem literal?_eq_none_iff (v : Value P) :
    v.literal? = none ↔ (∃ h, v = .handle h) ∨ ∃ x, v = .number x ∧ x.isNaN = true := by
  cases v <;> simp [literal?]

/-- Being one argument is an equivalence. The identities of two values are equal exactly if the
values are one argument, and so are their literals, where they have any; only handles and what is
not a number have none. -/
theorem same_iff_identity_and_literal :
    Equivalence (fun v w : Value P => v.same w = true) ∧
      (∀ v w : Value P, v.identity = w.identity ↔ v.same w = true) ∧
      (∀ v : Value P, v.literal? = none ↔
        (∃ h, v = .handle h) ∨ ∃ x, v = .number x ∧ x.isNaN = true) ∧
      (∀ v w : Value P, v.same w = true → v.literal?.isSome = w.literal?.isSome) ∧
      ∀ (v w : Value P) (l m : String), v.literal? = some l → w.literal? = some m →
        (l = m ↔ v.same w = true) := by
  refine ⟨equivalence_same, fun v w => (same_iff_identity_eq v w).symm, literal?_eq_none_iff,
    fun v w h => ?_, fun v w l m hv hw => ⟨?_, fun h => ?_⟩⟩
  · rw [literal?_congr ((same_iff_identity_eq v w).1 h)]
  · rintro rfl
    exact (same_iff_identity_eq v w).2 (identity_eq_of_literal hv hw)
  · have hl := literal?_congr ((same_iff_identity_eq v w).1 h)
    rw [hv, hw] at hl
    exact Option.some.inj hl

example : (string "null" : Value).literal? ≠ (null : Value).literal? := by decide

end Value

end Splice
