import Splice.Text.Token
import Splice.Value.Literal

namespace Splice

namespace Quoted

/-- The piece that a character is written as: what is below the space and has no letter of its own
goes by its number. -/
def pieceOf (c : Char) : Piece :=
  if c.toNat < 0x20 ∧ c ∉ ['\x08', '\x0c', '\n', '\r', '\t'] then .unit c.toNat else .char c

theorem unit?_digitChar {n : Nat} (h : n < 0x20) :
    unit? '0' '0' (Nat.digitChar (n / 16)) (Nat.digitChar (n % 16)) = some n := by
  revert n
  decide

theorem pieces?_escape (c : Char) (s : List Char) :
    pieces? (escape c ++ s) = (pieces? s).map fun p => (pieceOf c :: p.1, p.2) := by
  unfold escape
  split
  case h_8 _ hq hb h08 h0c hn hr ht =>
    by_cases h : c.toNat < 0x20
    · have hp : pieceOf c = .unit c.toNat := by
        simpa [pieceOf, h] using ⟨h08, h0c, hn, hr, ht⟩
      rw [if_pos h, hp]
      cases hs : pieces? s <;> simp [pieces?, unit?_digitChar h, hs]
    · have hp : pieceOf c = .char c := by simp [pieceOf, h]
      rw [if_neg h, hp, List.singleton_append, pieces?]
      · cases hs : pieces? s <;> simp_all
      all_goals simp_all
  all_goals
    cases h : pieces? s <;> simp [pieces?, letterEscape?, pieceOf, h]

theorem pieces?_flatMap_escape (s rest : List Char) :
    pieces? (s.flatMap escape ++ '"' :: rest) = some (s.map pieceOf, rest) := by
  induction s with
  | nil => simp [pieces?]
  | cons c s ih => rw [List.flatMap_cons, List.append_assoc, pieces?_escape, ih]; rfl

theorem characters?_unit {n : Nat} (hh : isHigh n = false) (hl : isLow n = false)
    (ps : List Piece) :
    characters? (.unit n :: ps) = (characters? ps).map (Char.ofNat n :: ·) := by
  rcases ps with _ | ⟨_ | m, ps⟩ <;> simp [characters?, hh, hl]

theorem characters?_pieceOf (c : Char) (ps : List Piece) :
    characters? (pieceOf c :: ps) = (characters? ps).map (c :: ·) := by
  unfold pieceOf
  split
  · next h =>
    have hh : isHigh c.toNat = false := decide_eq_false (by omega)
    have hl : isLow c.toNat = false := decide_eq_false (by omega)
    rw [characters?_unit hh hl, Char.ofNat_toNat]
  · rfl

theorem characters?_map_pieceOf (s : List Char) : characters? (s.map pieceOf) = some s := by
  induction s with
  | nil => rfl
  | cons c s ih => rw [List.map_cons, characters?_pieceOf, ih, Option.map_some]

theorem le_digitChar {n : Nat} (h : n < 0x20) :
    0x20 ≤ (Nat.digitChar (n / 16)).toNat ∧ 0x20 ≤ (Nat.digitChar (n % 16)).toNat := by
  revert n
  decide

theorem le_of_mem_escape {c x : Char} (h : x ∈ escape c) : 0x20 ≤ x.toNat := by
  unfold escape at h
  split at h
  case h_8 =>
    by_cases hc : c.toNat < 0x20
    · obtain ⟨h1, h2⟩ := le_digitChar hc
      simp only [if_pos hc, List.mem_cons, List.not_mem_nil, or_false] at h
      rcases h with rfl | rfl | rfl | rfl | rfl | rfl
      all_goals first | assumption | decide
    · rw [if_neg hc, List.mem_singleton] at h
      subst h
      omega
  all_goals
    simp only [List.mem_cons, List.not_mem_nil, or_false] at h
    rcases h with rfl | rfl <;> decide

theorem le_of_mem_encode {s : List Char} {x : Char} (h : x ∈ encode s) : 0x20 ≤ x.toNat := by
  simp only [encode, List.mem_cons, List.mem_append, List.mem_flatMap, List.not_mem_nil,
    or_false] at h
  rcases h with rfl | ⟨c, -, hx⟩ | rfl
  · decide
  · exact le_of_mem_escape hx
  · decide

end Quoted

theorem toList_quote (s : String) : (quote s).toList = Quoted.encode s.toList := by
  rw [quote, String.toList_ofList]

theorem Token.read?_quote (s : String) (rest : List Char) :
    read? ((quote s).toList ++ rest) = some (.string (some s.toList), rest) := by
  have hp := Quoted.pieces?_flatMap_escape s.toList rest
  rw [toList_quote, Quoted.encode, List.cons_append, List.append_assoc, List.singleton_append,
    read?, hp, Option.map_some]
  simp only [Quoted.characters?_map_pieceOf]

/-- What is written as a string literal is read as that string up to its own last character,
whatever text follows. No character of it is below the space. -/
theorem Value.string_literal_read_back {P : Type} (s : String) (rest : List Char) :
    ∃ literal, (string s : Value P).literal? = some literal ∧
      Token.read? (literal.toList ++ rest) = some (.string (some s.toList), rest) ∧
      ∀ c ∈ literal.toList, 0x20 ≤ c.toNat := by
  refine ⟨quote s, rfl, Token.read?_quote s rest, ?_⟩
  intro c hc
  rw [toList_quote] at hc
  exact Quoted.le_of_mem_encode hc

end Splice
