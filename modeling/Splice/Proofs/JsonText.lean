import Mathlib.Data.List.Chain
import Splice.Proofs.Numeral
import Splice.Proofs.Spacing
import Splice.Proofs.Spelling

namespace Splice

/-- JSON values whose numbers are whole. -/
inductive JsonValue where
  | null
  | bool (b : Bool)
  | integer (negative : Bool) (n : Nat)
  | string (s : String)
  | array (elements : List JsonValue)
  | object (members : List (String × JsonValue))

def Numeral.ofInteger (negative : Bool) (n : Nat) : Numeral :=
  ⟨negative, Nat.toDigits 10 n, none, none⟩

theorem Numeral.wellFormed_ofInteger (negative : Bool) (n : Nat) :
    (ofInteger negative n).WellFormed where
  whole := isDigits_toDigits n
  leading := by
    by_cases hn : n = 0
    · exact .inl (by rw [hn]; rfl)
    · exact .inr (head?_toDigits hn)
  fraction := fun _ h => by cases h
  power := fun _ h => by cases h

namespace JsonValue

mutual

def tokens : JsonValue → List Token
  | .null => [.null]
  | .bool b => [.bool b]
  | .integer negative n => [.number (.ofInteger negative n)]
  | .string s => [.string (some s.toList)]
  | .array es => .openArray :: ([.comma].intercalate (es.map tokens) ++ [.closeArray])
  | .object ms => .openObject :: ([.comma].intercalate (ms.map memberTokens) ++ [.closeObject])

def memberTokens : String × JsonValue → List Token
  | (name, v) => .string (some name.toList) :: .colon :: v.tokens

end

@[elab_as_elim]
theorem structural {motive : JsonValue → Prop} (null : motive .null)
    (bool : ∀ b, motive (.bool b)) (integer : ∀ negative n, motive (.integer negative n))
    (string : ∀ s, motive (.string s))
    (array : ∀ es, (∀ e ∈ es, motive e) → motive (.array es))
    (object : ∀ ms, (∀ m ∈ ms, motive m.2) → motive (.object ms)) (v : JsonValue) : motive v :=
  match v with
  | .null => null
  | .bool b => bool b
  | .integer negative n => integer negative n
  | .string s => string s
  | .array es => array es fun e _ => structural null bool integer string array object e
  | .object ms => object ms fun m _ => structural null bool integer string array object m.2
termination_by sizeOf v
decreasing_by
  · have := List.sizeOf_lt_of_mem ‹e ∈ es›
    simp only [JsonValue.array.sizeOf_spec]
    omega
  · obtain ⟨name, v⟩ := m
    have := List.sizeOf_lt_of_mem ‹(name, v) ∈ ms›
    simp only [JsonValue.object.sizeOf_spec, Prod.mk.sizeOf_spec] at this ⊢
    omega

end JsonValue

namespace Token

inductive Lexeme : String → Token → Prop where
  | openObject : Lexeme "\x7b" .openObject
  | closeObject : Lexeme "\x7d" .closeObject
  | openArray : Lexeme "[" .openArray
  | closeArray : Lexeme "]" .closeArray
  | colon : Lexeme ":" .colon
  | comma : Lexeme "," .comma
  | null : Lexeme "null" .null
  | bool (b : Bool) : Lexeme (Value.boolText b) (.bool b)
  | integer (negative : Bool) (n : Nat) :
    Lexeme (.ofList (NumberStyle.signText negative ++ Nat.toDigits 10 n))
      (.number (.ofInteger negative n))
  | string {s : List Char} {texts : List (List Char)} (h : List.Forall₂ Quoted.Spelling s texts) :
    Lexeme (.ofList ('"' :: (texts.flatten ++ ['"']))) (.string (some s))

/-- A token that may come after any value, and that no number goes on with. -/
def Closes (t : Token) : Prop := t = .comma ∨ t = .closeArray ∨ t = .closeObject

def Apart (t u : Token) : Prop := (∃ n, t = .number n) → u.Closes

theorem lexeme_quote (s : String) : Lexeme (quote s) (.string (some s.toList)) := by
  have hl := Lexeme.string (Quoted.forall₂_spelling_escape s.toList)
  rwa [← List.flatMap_def] at hl

/-- A lexeme is read as its token; a number wants a text after it that does not go on with it. -/
theorem Lexeme.read?_append {lexeme : String} {t : Token} (h : Lexeme lexeme t) {rest : List Char}
    (hr : (∃ n, t = .number n) → Numeral.Ends rest) :
    read? (lexeme.toList ++ rest) = some (t, rest) := by
  cases h with
  | bool b => cases b <;> rfl
  | integer negative n =>
    refine read?_of_numeral ?_
    have hc : (Numeral.ofInteger negative n).chars =
        NumberStyle.signText negative ++ Nat.toDigits 10 n := by
      simp [Numeral.chars, Numeral.ofInteger, Numeral.fractionChars, Numeral.powerChars]
    rw [String.toList_ofList, ← hc]
    exact Numeral.read?_append (Numeral.wellFormed_ofInteger negative n) (hr ⟨_, rfl⟩)
  | string h =>
    obtain ⟨ps, hp, hs⟩ := Quoted.pieces?_of_spelled h rest
    rw [String.toList_ofList, List.cons_append, List.append_assoc, List.singleton_append, read?, hp,
      Option.map_some]
    simp only [hs]
  | _ => rfl

theorem Closes.ends {t : Token} (h : t.Closes) {lexeme : String} (hl : Lexeme lexeme t)
    (rest : List Char) : Numeral.Ends (lexeme.toList ++ rest) := by
  rcases h with rfl | rfl | rfl <;> cases hl <;> rintro c ⟨⟩ <;> decide

theorem ends_append_of_blanks {blanks s : List Char} (hb : Blanks blanks) (hs : Numeral.Ends s) :
    Numeral.Ends (blanks ++ s) := by
  cases blanks with
  | nil => exact hs
  | cons b blanks =>
    have hc : isBlank b = true := hb b List.mem_cons_self
    simp only [isBlank, Bool.or_eq_true, decide_eq_true_eq] at hc
    rintro c ⟨⟩
    rcases hc with ((rfl | rfl) | rfl) | rfl <;> decide

theorem Spaced.ends {lexemes : List String} {text : List Char} (h : Spaced lexemes text)
    {ts : List Token} (hl : List.Forall₂ Lexeme lexemes ts) (hc : ∀ t ∈ ts.head?, t.Closes) :
    Numeral.Ends text := by
  cases h with
  | nil hb => simpa using ends_append_of_blanks hb Numeral.ends_nil
  | cons hb lexeme h =>
    cases hl with
    | cons hl _ => exact ends_append_of_blanks hb ((hc _ rfl).ends hl _)

theorem Spaced.ofText_eq_of_lexemes {lexemes : List String} {text : List Char}
    (h : Spaced lexemes text) {ts : List Token} (hl : List.Forall₂ Lexeme lexemes ts)
    (ha : ts.IsChain Apart) : ofText text = ts := by
  induction h generalizing ts with
  | nil hb => exact (Spaced.nil hb).ofText_eq (by cases hl; exact .nil)
  | cons hb lexeme h ih =>
    cases hl with
    | cons hl hls =>
      obtain ⟨hn, ha⟩ := List.isChain_cons.1 ha
      have hr := hl.read?_append fun ht => h.ends hls fun u hu => hn u hu ht
      rw [ofText_append_of_blanks hb, ofText_of_read? hr, ih hls ha]

end Token

namespace JsonValue

open Token (Apart Closes)

theorem apart_cons {t : Token} (ht : ¬ ∃ n, t = .number n) {ts : List Token}
    (h : ts.IsChain Apart) : (t :: ts).IsChain Apart :=
  List.isChain_cons.2 ⟨fun _ _ hn => absurd hn ht, h⟩

theorem apart_append {ts us : List Token} {t : Token} (h : ts.IsChain Apart) (ht : t.Closes)
    (hu : (t :: us).IsChain Apart) : (ts ++ t :: us).IsChain Apart := by
  refine List.isChain_append.2 ⟨h, hu, ?_⟩
  rintro _ _ _ ⟨⟩ -
  exact ht

theorem apart_intercalate {tss : List (List Token)} (h : ∀ ts ∈ tss, ts.IsChain Apart)
    {first last : Token} (hf : ¬ ∃ n, first = .number n) (hl : last.Closes) :
    (first :: ([.comma].intercalate tss ++ [last])).IsChain Apart := by
  refine apart_cons hf ?_
  induction tss with
  | nil => exact .singleton _
  | cons ts tss ih =>
    obtain ⟨hs, ht⟩ := List.forall_mem_cons.1 h
    cases tss with
    | nil =>
      rw [List.intercalate_singleton]
      exact apart_append hs hl (.singleton _)
    | cons us tss =>
      rw [List.intercalate_cons_cons, List.append_assoc, List.append_assoc]
      exact apart_append hs (.inl rfl) (apart_cons (by simp) (ih ht))

theorem apart_tokens (v : JsonValue) : v.tokens.IsChain Apart := by
  induction v using structural with
  | null => simp [tokens]
  | bool b => simp [tokens]
  | integer negative n => simp [tokens]
  | string s => simp [tokens]
  | array es ih =>
    rw [tokens]
    refine apart_intercalate ?_ (by simp) (.inr (.inl rfl))
    simpa using ih
  | object ms ih =>
    rw [tokens]
    refine apart_intercalate ?_ (by simp) (.inr (.inr rfl))
    rw [List.forall_mem_map]
    rintro ⟨name, v⟩ hm
    rw [memberTokens]
    exact apart_cons (by simp) (apart_cons (by simp) (ih _ hm))

def Written (v : JsonValue) (text : List Char) : Prop :=
  ∃ lexemes, List.Forall₂ Token.Lexeme lexemes v.tokens ∧ Token.Spaced lexemes text

theorem Written.ofText_eq {v : JsonValue} {text : List Char} (h : v.Written text) :
    Token.ofText text = v.tokens := by
  obtain ⟨lexemes, hl, hs⟩ := h
  exact hs.ofText_eq_of_lexemes hl v.apart_tokens

mutual

def lexemes : JsonValue → List String
  | .null => ["null"]
  | .bool b => [Value.boolText b]
  | .integer negative n => [.ofList (NumberStyle.signText negative ++ Nat.toDigits 10 n)]
  | .string s => [quote s]
  | .array es => "[" :: ([","].intercalate (es.map lexemes) ++ ["]"])
  | .object ms => "\x7b" :: ([","].intercalate (ms.map memberLexemes) ++ ["\x7d"])

def memberLexemes : String × JsonValue → List String
  | (name, v) => quote name :: ":" :: v.lexemes

end

theorem forall₂_lexemes (v : JsonValue) : List.Forall₂ Token.Lexeme v.lexemes v.tokens := by
  induction v using structural with
  | null => rw [lexemes, tokens]; exact .cons .null .nil
  | bool b => rw [lexemes, tokens]; exact .cons (.bool b) .nil
  | integer negative n => rw [lexemes, tokens]; exact .cons (.integer negative n) .nil
  | string s => rw [lexemes, tokens]; exact .cons (Token.lexeme_quote s) .nil
  | array es ih =>
    have he : List.Forall₂ (List.Forall₂ Token.Lexeme) (es.map lexemes) (es.map tokens) := by
      rw [List.forall₂_map_left_iff, List.forall₂_map_right_iff]
      exact List.forall₂_same.2 ih
    rw [lexemes, tokens]
    refine .cons .openArray (List.rel_append ?_ (.cons .closeArray .nil))
    exact forall₂_intercalate (.cons .comma .nil) he
  | object ms ih =>
    have hm : List.Forall₂ (List.Forall₂ Token.Lexeme) (ms.map memberLexemes)
        (ms.map memberTokens) := by
      rw [List.forall₂_map_left_iff, List.forall₂_map_right_iff]
      refine List.forall₂_same.2 ?_
      rintro ⟨name, v⟩ hm
      rw [memberLexemes, memberTokens]
      exact .cons (Token.lexeme_quote name) (.cons .colon (ih _ hm))
    rw [lexemes, tokens]
    refine .cons .openObject (List.rel_append ?_ (.cons .closeObject .nil))
    exact forall₂_intercalate (.cons .comma .nil) hm

theorem written_join (v : JsonValue) : v.Written (String.join v.lexemes).toList :=
  ⟨_, v.forall₂_lexemes, Token.spaced_join _⟩

end JsonValue

end Splice
