import Splice.Config.Reader
import Splice.Proofs.CutText

namespace Splice.Config

namespace Reading

variable {r r' : Reading}

theorem step_malformed (r : Reading) : r.step .malformed = .error .malformed := by
  obtain ⟨g, place⟩ := r
  cases place with
  | colon field => cases field <;> rfl
  | value field => cases field <;> rfl
  | within demands =>
    cases demands with
    | nil => rfl
    | cons d ds => cases d <;> rfl
  | element field later => cases field <;> rfl
  | afterElement later => cases later <;> rfl
  | _ => rfl

theorem place_ne_done_of_step {t : Token} (h : r.step t = .ok r') : r.place ≠ .done := by
  obtain ⟨g, place⟩ := r
  rintro rfl
  cases h

theorem finish_of_place_ne_done (h : r.place ≠ .done) : r.finish = .error .malformed := by
  unfold finish
  split
  · next hp => exact absurd hp h
  · rfl

/-- A number is taken only where any value is read over, and it does not matter which one it is. -/
theorem step_number {n : Numeral} (h : r.step (.number n) = .ok r') (m : Numeral) :
    r.step (.number m) = .ok r' ∧ r'.place ≠ .done := by
  obtain ⟨g, place⟩ := r
  cases place with
  | colon field => cases field <;> cases h
  | value field => cases field <;> cases h
  | within demands =>
    cases demands with
    | nil => cases h
    | cons d ds =>
      cases d with
      | value => cases ds <;> cases h <;> exact ⟨rfl, Place.noConfusion⟩
      | elementOrClose => cases h; exact ⟨rfl, Place.noConfusion⟩
      | _ => cases h
  | element field later => cases field <;> cases h
  | afterElement later => cases later <;> cases h
  | _ => cases h

theorem exists_step {t : Token} {ts : List Token} (h : (t :: ts).foldlM step r = .ok r') :
    ∃ s, r.step t = .ok s ∧ ts.foldlM step s = .ok r' := by
  rw [List.foldlM_cons] at h
  cases ht : r.step t with
  | error e =>
    rw [ht] at h
    cases h
  | ok s =>
    rw [ht] at h
    exact ⟨s, rfl, h⟩

theorem malformed_notMem {ts : List Token} (h : ts.foldlM step r = .ok r') :
    .malformed ∉ ts := by
  induction ts generalizing r with
  | nil => exact List.not_mem_nil
  | cons t ts ih =>
    obtain ⟨s, ht, hs⟩ := exists_step h
    intro hm
    rcases List.mem_cons.1 hm with rfl | hm
    · rw [step_malformed] at ht
      cases ht
    · exact ih hs hm

/-- A reading that takes all tokens of a text finds the text malformed where it is cut. -/
theorem finish_of_cut {ts us : List Token} (hc : Token.Cut ts us)
    (h : ts.foldlM step r = .ok r') : (us.foldlM step r >>= finish) = .error .malformed := by
  induction hc generalizing r with
  | before t ts =>
    obtain ⟨s, ht, -⟩ := exists_step h
    exact finish_of_place_ne_done (place_ne_done_of_step ht)
  | within t ts =>
    rw [List.foldlM_cons, step_malformed]
    rfl
  | number m n ts =>
    obtain ⟨s, ht, -⟩ := exists_step h
    obtain ⟨hm, hs⟩ := step_number ht m
    rw [List.foldlM_cons, hm]
    exact finish_of_place_ne_done hs
  | after t hc ih =>
    obtain ⟨s, ht, hs⟩ := exists_step h
    rw [List.foldlM_cons, ht]
    exact ih hs

end Reading

theorem exists_foldlM_of_ofTokens {ts : List Token} {c : Config} (h : ofTokens ts = .ok c) :
    ∃ r, ts.foldlM Reading.step {} = .ok r := by
  unfold ofTokens at h
  cases hr : ts.foldlM Reading.step {} with
  | error e =>
    rw [hr] at h
    cases h
  | ok r => exact ⟨r, rfl⟩

/-- Wherever the text of settings is cut before its last character that is not blank, what is left
is malformed: it does not read as other settings, and it has no other problem. -/
theorem truncated_malformed {text : String} {c : Config} (h : ofText text = .ok c) {p q : String}
    (ht : text = p ++ q) (hq : ∃ d ∈ q.toList, Token.isBlank d = false) :
    ofText p = .error .malformed := by
  obtain ⟨r, hr⟩ := exists_foldlM_of_ofTokens h
  rw [ht, String.toList_append] at hr
  have hc := Token.cut_ofText hq (Reading.malformed_notMem hr)
  exact Reading.finish_of_cut hc hr

theorem truncated_malformed_number :
    ofText "\x7b\"a\":[\x7b\x7d,-12e3]\x7d" = .ok {} ∧
      "\x7b\"a\":[\x7b\x7d,-12e3]\x7d" = "\x7b\"a\":[\x7b\x7d,-1" ++ "2e3]\x7d" ∧
      (∃ d ∈ "2e3]\x7d".toList, Token.isBlank d = false) ∧
      ofText "\x7b\"a\":[\x7b\x7d,-1" = .error .malformed := by
  have h : ofText "\x7b\"a\":[\x7b\x7d,-12e3]\x7d" = .ok {} := by decide +kernel
  have ht : "\x7b\"a\":[\x7b\x7d,-12e3]\x7d" = "\x7b\"a\":[\x7b\x7d,-1" ++ "2e3]\x7d" := by decide
  have hq : ∃ d ∈ "2e3]\x7d".toList, Token.isBlank d = false := ⟨'2', by decide, by decide⟩
  exact ⟨h, ht, hq, truncated_malformed h ht hq⟩

end Splice.Config
