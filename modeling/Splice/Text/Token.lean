import Splice.Text.Quoted
import Splice.Text.Numeral

namespace Splice

inductive Token where
  | openObject
  | closeObject
  | openArray
  | closeArray
  | colon
  | comma
  | null
  | bool (b : Bool)
  | number (n : Numeral)
  /-- A string; it has no text when half a surrogate pair is escaped in it. -/
  | string (text : Option (List Char))
  | malformed
  deriving DecidableEq

namespace Token

def isBlank (c : Char) : Bool := c = ' ' || c = '\t' || c = '\n' || c = '\r'

def read? : List Char → Option (Token × List Char)
  | '{' :: r => some (.openObject, r)
  | '}' :: r => some (.closeObject, r)
  | '[' :: r => some (.openArray, r)
  | ']' :: r => some (.closeArray, r)
  | ':' :: r => some (.colon, r)
  | ',' :: r => some (.comma, r)
  | 'n' :: 'u' :: 'l' :: 'l' :: r => some (.null, r)
  | 't' :: 'r' :: 'u' :: 'e' :: r => some (.bool true, r)
  | 'f' :: 'a' :: 'l' :: 's' :: 'e' :: r => some (.bool false, r)
  | '"' :: r => (Quoted.pieces? r).map fun (ps, rest) => (.string (Quoted.characters? ps), rest)
  | s => (Numeral.read? s).map fun (n, rest) => (.number n, rest)

theorem read?_length {s rest : List Char} {t : Token} (h : read? s = some (t, rest)) :
    rest.length < s.length := by
  unfold read? at h
  split at h
  case h_10 =>
    obtain ⟨⟨ps, r⟩, hp, he⟩ := Option.map_eq_some_iff.1 h
    have := Quoted.pieces?_length hp
    grind
  case h_11 =>
    obtain ⟨⟨n, r⟩, hn, he⟩ := Option.map_eq_some_iff.1 h
    have := Numeral.read?_length hn
    grind
  all_goals
    simp only [Option.some.injEq, Prod.mk.injEq] at h
    simp only [← h.2, List.length_cons]
    omega

/-- Where a text stops being well formed, its tokens end in `malformed`. -/
def ofText : List Char → List Token
  | [] => []
  | c :: r =>
    if isBlank c then ofText r
    else match h : read? (c :: r) with
      | none => [.malformed]
      | some (t, rest) =>
        have := read?_length h
        t :: ofText rest
termination_by s => s.length
decreasing_by
  · exact Nat.lt_succ_self _
  · exact this

end Token

end Splice
