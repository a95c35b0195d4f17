import Mathlib.Data.List.Forall2
import Splice.Text.Token

namespace Splice

theorem forall₂_intercalate {α β : Type} {R : α → β → Prop} {s : List α} {t : List β}
    (hs : List.Forall₂ R s t) {xss : List (List α)} {yss : List (List β)}
    (h : List.Forall₂ (List.Forall₂ R) xss yss) :
    List.Forall₂ R (s.intercalate xss) (t.intercalate yss) := by
  induction h with
  | nil => exact .nil
  | cons hx h ih =>
    cases h with
    | nil => simpa only [List.intercalate_singleton] using hx
    | cons hy h =>
      rw [List.intercalate_cons_cons, List.intercalate_cons_cons]
      exact List.rel_append (List.rel_append hx hs) ih

namespace Token

/-- The lexeme is read as that token, whatever follows it. -/
def Spells (lexeme : String) (t : Token) : Prop :=
  ∀ rest, read? (lexeme.toList ++ rest) = some (t, rest)

def Blanks (s : List Char) : Prop := ∀ c ∈ s, isBlank c = true

/-- The lexemes in order, with any blanks before, between and after them. -/
inductive Spaced : List String → List Char → Prop where
  | nil {blanks : List Char} (hb : Blanks blanks) : Spaced [] blanks
  | cons {blanks text : List Char} {lexemes : List String} (hb : Blanks blanks) (lexeme : String)
      (h : Spaced lexemes text) : Spaced (lexeme :: lexemes) (blanks ++ (lexeme.toList ++ text))

def spread (blanks : List Char) (lexemes : List String) : List Char :=
  lexemes.foldr (fun lexeme text => blanks ++ (lexeme.toList ++ text)) blanks

theorem spaced_spread {blanks : List Char} (hb : Blanks blanks) (lexemes : List String) :
    Spaced lexemes (spread blanks lexemes) := by
  induction lexemes with
  | nil => exact .nil hb
  | cons lexeme lexemes ih => exact .cons hb lexeme ih

theorem spaced_join (lexemes : List String) : Spaced lexemes (String.join lexemes).toList := by
  have hb : Blanks [] := by simp [Blanks]
  have hs : spread [] lexemes = (String.join lexemes).toList := by
    induction lexemes with
    | nil => rfl
    | cons lexeme lexemes ih =>
      rw [String.join_cons, String.toList_append, ← ih]
      rfl
  rw [← hs]
  exact spaced_spread hb lexemes

theorem read?_of_isBlank {c : Char} (h : isBlank c = true) (s : List Char) :
    read? (c :: s) = none := by
  simp only [isBlank, Bool.or_eq_true, decide_eq_true_eq] at h
  rcases h with ((rfl | rfl) | rfl) | rfl <;> rfl

theorem intercalate_comma (ts : List Token) (tss : List (List Token)) :
    [.comma].intercalate (ts :: tss) = ts ++ tss.flatMap (.comma :: ·) := by
  induction tss generalizing ts with
  | nil => rw [List.intercalate_singleton, List.flatMap_nil, List.append_nil]
  | cons us tss ih => rw [List.intercalate_cons_cons, ih, List.flatMap_cons, List.append_assoc]; rfl

theorem read?_of_numeral {s rest : List Char} {n : Numeral}
    (h : Numeral.read? s = some (n, rest)) : read? s = some (.number n, rest) := by
  unfold read?
  split
  case h_11 => rw [h, Option.map_some]
  all_goals
    simp [Numeral.read?, Numeral.readSign, Numeral.readWhole?, Numeral.readDigits?] at h

theorem ofText_append_of_blanks {blanks : List Char} (hb : Blanks blanks) (s : List Char) :
    ofText (blanks ++ s) = ofText s := by
  induction blanks with
  | nil => rfl
  | cons c blanks ih =>
    have hc : isBlank c = true := hb c List.mem_cons_self
    rw [List.cons_append, ofText, if_pos hc]
    exact ih fun d hd => hb d (List.mem_cons_of_mem c hd)

theorem ofText_of_read? {s rest : List Char} {t : Token} (h : read? s = some (t, rest)) :
    ofText s = t :: ofText rest := by
  cases s with
  | nil => cases h
  | cons c s =>
    have hc : ¬ isBlank c = true := by
      intro hc
      rw [read?_of_isBlank hc] at h
      cases h
    rw [ofText, if_neg hc]
    split
    · next hn =>
      rw [h] at hn
      cases hn
    · next t' rest' hs =>
      rw [h] at hs
      cases hs
      rfl

/-- The blanks in a text leave no trace in its tokens. -/
theorem Spaced.ofText_eq {lexemes : List String} {text : List Char} (h : Spaced lexemes text)
    {ts : List Token} (ht : List.Forall₂ Spells lexemes ts) : ofText text = ts := by
  induction h generalizing ts with
  | nil hb =>
    cases ht
    have he := ofText_append_of_blanks hb []
    rwa [List.append_nil, ofText] at he
  | cons hb lexeme _ ih =>
    cases ht with
    | cons hl ht => rw [ofText_append_of_blanks hb, ofText_of_read? (hl _), ih ht]

end Token

end Splice
