import Splice.Config.Reader
import Splice.Proofs.Spacing
import Splice.Proofs.StringLiteral

namespace Splice

theorem filterMap_cons_eq {α β : Type} (f : α → Option β) (a : α) (l : List α) :
    (a :: l).filterMap f = (f a).toList ++ l.filterMap f := by
  simp only [List.filterMap_eq_flatMap_toList, List.flatMap_cons]

namespace Config

section

variable (c : Config)

def memberLexemes (f : Field) : List String := [quote f.name, ":", c.fieldText f]

def lexemes : List String :=
  "\x7b" :: ([","].intercalate (Field.all.map c.memberLexemes) ++ ["\x7d"])

def fieldToken : Field → Token
  | .lookupVar => .string (some c.lookupVar.toList)
  | .keyPrefix => .string (some c.keyPrefix.toList)
  | .inlinePrimitives => .bool c.inlinePrimitives

def memberTokens (f : Field) : List Token := [.string (some f.name.toList), .colon, c.fieldToken f]

def tokens : List Token :=
  .openObject :: ([.comma].intercalate (Field.all.map c.memberTokens) ++ [.closeObject])

theorem join_lexemes : String.join c.lexemes = c.json := by
  simp [lexemes, json, Field.all, memberLexemes, String.append_assoc]

theorem spells_fieldText (f : Field) : Token.Spells (c.fieldText f) (c.fieldToken f) := by
  cases f with
  | lookupVar => exact Token.read?_quote c.lookupVar
  | keyPrefix => exact Token.read?_quote c.keyPrefix
  | inlinePrimitives =>
    intro rest
    rw [fieldText, fieldToken]
    cases c.inlinePrimitives <;> rfl

theorem spells_memberLexemes (f : Field) :
    List.Forall₂ Token.Spells (c.memberLexemes f) (c.memberTokens f) :=
  .cons (Token.read?_quote f.name) (.cons (fun _ => rfl) (.cons (c.spells_fieldText f) .nil))

theorem spells_lexemes : List.Forall₂ Token.Spells c.lexemes c.tokens := by
  have hm : List.Forall₂ (List.Forall₂ Token.Spells) (Field.all.map c.memberLexemes)
      (Field.all.map c.memberTokens) := by
    rw [List.forall₂_map_left_iff, List.forall₂_map_right_iff]
    exact List.forall₂_same.2 fun f _ => c.spells_memberLexemes f
  refine .cons (fun _ => rfl) (List.rel_append ?_ (.cons (fun _ => rfl) .nil))
  exact forall₂_intercalate (.cons (fun _ => rfl) .nil) hm

end

namespace Given

def of (c : Config) (fs : List Field) : Given where
  lookupVar := if .lookupVar ∈ fs then some c.lookupVar else none
  keyPrefix := if .keyPrefix ∈ fs then some c.keyPrefix else none
  inlinePrimitives := if .inlinePrimitives ∈ fs then some c.inlinePrimitives else none

theorem has_of (c : Config) (fs : List Field) (f : Field) : (of c fs).has f = decide (f ∈ fs) := by
  cases f <;> simp only [has, of] <;> split <;> simp_all

theorem set_of (c : Config) (fs : List Field) (f : Field) :
    (of c fs).set f (c.fieldToken f) = .ok (of c (fs ++ [f])) := by
  cases f <;> simp [set, fieldToken, of]

theorem config_of {c : Config} {fs : List Field}
    (h : ∀ f, f ∉ fs → c.fieldToken f = ({} : Config).fieldToken f) : (of c fs).config = c := by
  have hl := h .lookupVar
  have hk := h .keyPrefix
  have hi := h .inlinePrimitives
  simp only [fieldToken, Token.string.injEq, Token.bool.injEq, Option.some.injEq,
    String.toList_inj] at hl hk hi
  obtain ⟨l, k, i⟩ := c
  simp only [config, of, Config.mk.injEq]
  refine ⟨?_, ?_, ?_⟩ <;> split <;> simp_all

end Given

theorem Field.ofName?_name (f : Field) : ofName? f.name = some f := by
  cases f <;> decide

namespace Reading

theorem foldlM_append {ts us : List Token} {r r' : Reading} (h : ts.foldlM step r = .ok r') :
    (ts ++ us).foldlM step r = us.foldlM step r' := by
  rw [List.foldlM_append, h]
  rfl

variable {g : Given} {place : Place}

theorem step_name (hp : place = .nameOrClose ∨ place = .name) (name : List Char) :
    step ⟨g, place⟩ (.string (some name)) = takeName ⟨g, place⟩ name := by
  rcases hp with rfl | rfl <;> rfl

theorem foldlM_member {g' : Given} {f : Field} {t : Token} (hf : g.has f = false)
    (ht : g.set f t = .ok g') (hp : place = .nameOrClose ∨ place = .name) :
    [.string (some f.name.toList), .colon, t].foldlM step ⟨g, place⟩ =
      .ok (⟨g', .afterMember⟩ : Reading) := by
  have hs : step ⟨g, place⟩ (.string (some f.name.toList)) = .ok ⟨g, .colon (some f)⟩ := by
    rw [step_name hp, takeName, String.ofList_toList, Field.ofName?_name]
    simp [hf, moveTo]
  have hv : step ⟨g, .value f⟩ t = .ok ⟨g', .afterMember⟩ := by
    change (g.set f t).map (fun given => (⟨given, .afterMember⟩ : Reading)) = _
    rw [ht]
    rfl
  rw [List.foldlM_cons, hs]
  change (step ⟨g, .value f⟩ t >>= pure) = _
  rw [hv]
  rfl

/-- The tokens of a member give one field of the settings, or leave all fields as they are. -/
def Gives (c : Config) (field? : Option Field) (ts : List Token) : Prop :=
  ∀ (fs : List Field) (place : Place), (∀ f ∈ field?, f ∉ fs) →
    place = .nameOrClose ∨ place = .name →
      ts.foldlM step ⟨.of c fs, place⟩ =
        .ok (⟨.of c (fs ++ field?.toList), .afterMember⟩ : Reading)

theorem gives_memberTokens (c : Config) (f : Field) : Gives c (some f) (c.memberTokens f) := by
  intro fs place hf hp
  have hg : (Given.of c fs).has f = false := by
    rw [Given.has_of]
    exact decide_eq_false (hf f rfl)
  exact foldlM_member hg (Given.set_of c fs f) hp

section

variable {c : Config} {α : Type} {tokens : α → List Token} {field? : α → Option Field} {ms : List α}

theorem foldlM_members {fs : List Field} (hm : ∀ m ∈ ms, Gives c (field? m) (tokens m))
    (hd : (fs ++ ms.filterMap field?).Nodup) :
    ((ms.map tokens).flatMap (.comma :: ·)).foldlM step ⟨.of c fs, .afterMember⟩ =
      .ok (⟨.of c (fs ++ ms.filterMap field?), .afterMember⟩ : Reading) := by
  induction ms generalizing fs with
  | nil => simp [pure, Except.pure]
  | cons m ms ih =>
    obtain ⟨hm, ht⟩ := List.forall_mem_cons.1 hm
    rw [filterMap_cons_eq, ← List.append_assoc] at hd ⊢
    have hf : ∀ f ∈ field? m, f ∉ fs := by
      intro f hf hfs
      have hn := (List.nodup_append.1 (List.nodup_append.1 hd).1).2.2
      exact hn f hfs f (by simpa using hf) rfl
    have hc : (.comma :: tokens m).foldlM step ⟨.of c fs, .afterMember⟩ =
        .ok (⟨.of c (fs ++ (field? m).toList), .afterMember⟩ : Reading) := hm fs .name hf (.inr rfl)
    rw [List.map_cons, List.flatMap_cons, foldlM_append hc]
    exact ih ht hd

theorem foldlM_open (hn : ms ≠ []) (hm : ∀ m ∈ ms, Gives c (field? m) (tokens m))
    (hd : (ms.filterMap field?).Nodup) :
    (.openObject :: [.comma].intercalate (ms.map tokens)).foldlM step {} =
      .ok (⟨.of c (ms.filterMap field?), .afterMember⟩ : Reading) := by
  cases ms with
  | nil => exact absurd rfl hn
  | cons m ms =>
    obtain ⟨hm, ht⟩ := List.forall_mem_cons.1 hm
    have ho : (.openObject :: tokens m).foldlM step {} =
        .ok (⟨.of c (field? m).toList, .afterMember⟩ : Reading) :=
      hm [] .nameOrClose (fun _ _ => List.not_mem_nil) (.inl rfl)
    rw [filterMap_cons_eq] at hd ⊢
    rw [List.map_cons, Token.intercalate_comma, ← List.cons_append, foldlM_append ho]
    exact foldlM_members ht hd

end

end Reading

theorem ofTokens_members {c : Config} {α : Type} {tokens : α → List Token}
    {field? : α → Option Field} {ms : List α} (hm : ∀ m ∈ ms, Reading.Gives c (field? m) (tokens m))
    (hd : (ms.filterMap field?).Nodup) :
    ofTokens (.openObject :: ([.comma].intercalate (ms.map tokens) ++ [.closeObject])) =
      .ok (Given.of c (ms.filterMap field?)).config := by
  cases ms with
  | nil => rfl
  | cons m ms =>
    have ho := Reading.foldlM_open (List.cons_ne_nil m ms) hm hd
    rw [ofTokens, ← List.cons_append, Reading.foldlM_append ho]
    rfl

theorem ofTokens_tokens (c : Config) : ofTokens c.tokens = .ok c := by
  have hm : ∀ f ∈ Field.all, Reading.Gives c (some f) (c.memberTokens f) :=
    fun f _ => Reading.gives_memberTokens c f
  rw [tokens, ofTokens_members hm (by decide), List.filterMap_some, Given.config_of]
  intro f hf
  exact absurd (by cases f <;> decide) hf

/-- The written text spells the tokens of the settings, and every text that differs from it only in
blanks before, between and after these tokens reads back as the settings. -/
theorem json_read_back_with_blanks (c : Config) :
    String.join c.lexemes = c.json ∧
      List.Forall₂ Token.Spells c.lexemes (Token.ofText c.json.toList) ∧
      ofText c.json = .ok c ∧
      ∀ text : String, Token.Spaced c.lexemes text.toList → ofText text = .ok c := by
  have hs : Token.ofText c.json.toList = c.tokens := by
    rw [← c.join_lexemes]
    exact (Token.spaced_join c.lexemes).ofText_eq c.spells_lexemes
  refine ⟨c.join_lexemes, hs ▸ c.spells_lexemes, ?_, fun text h => ?_⟩
  · rw [ofText, hs, ofTokens_tokens]
  · rw [ofText, h.ofText_eq c.spells_lexemes, ofTokens_tokens]

def escapedNames : Config := ⟨"\"\\", "\n😀", false⟩

theorem json_read_back_with_blanks_everywhere :
    Token.Spaced escapedNames.lexemes
        (String.ofList (Token.spread [' ', '\t', '\r', '\n'] escapedNames.lexemes)).toList ∧
      ofText (.ofList (Token.spread [' ', '\t', '\r', '\n'] escapedNames.lexemes)) =
        .ok escapedNames := by
  have hb : Token.Blanks [' ', '\t', '\r', '\n'] := by simp [Token.Blanks, Token.isBlank]
  have hs := Token.spaced_spread hb escapedNames.lexemes
  rw [← String.toList_ofList (l := Token.spread _ _)] at hs
  exact ⟨hs, (json_read_back_with_blanks escapedNames).2.2.2 _ hs⟩

end Config

end Splice
