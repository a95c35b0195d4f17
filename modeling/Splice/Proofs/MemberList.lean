import Mathlib.Data.List.Nodup
import Splice.Proofs.ConfigText
import Splice.Proofs.ReadOver

namespace Splice.Config

def Field.admits : Field → JsonValue → Bool
  | .lookupVar, .string _ | .keyPrefix, .string _ | .inlinePrimitives, .bool _ => true
  | _, _ => false

def ofMembers (ms : List (String × JsonValue)) : Config where
  lookupVar :=
    match ms.lookup Field.lookupVar.name with
    | some (.string s) => s
    | _ => ({} : Config).lookupVar
  keyPrefix :=
    match ms.lookup Field.keyPrefix.name with
    | some (.string s) => s
    | _ => ({} : Config).keyPrefix
  inlinePrimitives :=
    match ms.lookup Field.inlinePrimitives.name with
    | some (.bool b) => b
    | _ => ({} : Config).inlinePrimitives

def fieldsOf (ms : List (String × JsonValue)) : List Field :=
  ms.filterMap fun m => Field.ofName? m.1

theorem Field.ofName?_eq_some_iff {name : String} {f : Field} :
    ofName? name = some f ↔ name = f.name := by
  constructor
  · intro h
    have hn := List.find?_some h
    exact (of_decide_eq_true hn).symm
  · rintro rfl
    exact ofName?_name f

theorem count_fieldsOf (ms : List (String × JsonValue)) (f : Field) :
    (fieldsOf ms).count f = (ms.map Prod.fst).count f.name := by
  rw [fieldsOf, List.count_filterMap, List.count_eq_countP, List.countP_map]
  refine List.countP_congr fun m _ => ?_
  simp [Field.ofName?_eq_some_iff]

theorem nodup_fieldsOf {ms : List (String × JsonValue)} :
    (fieldsOf ms).Nodup ↔ ∀ f : Field, (ms.map Prod.fst).count f.name ≤ 1 := by
  simp only [List.nodup_iff_count_le_one, count_fieldsOf]

theorem mem_fieldsOf {ms : List (String × JsonValue)} {f : Field} :
    f ∈ fieldsOf ms ↔ f.name ∈ ms.map Prod.fst := by
  rw [← List.count_pos_iff, count_fieldsOf, List.count_pos_iff]

section

variable {ms : List (String × JsonValue)} {f : Field} {v : JsonValue}

theorem lookup_of_mem (hd : (fieldsOf ms).Nodup) (hm : (f.name, v) ∈ ms) :
    ms.lookup f.name = some v := by
  obtain ⟨before, after, rfl⟩ := List.append_of_mem hm
  refine List.lookup_eq_some_iff.2 ⟨before, after, rfl, fun m hb => ?_⟩
  have hc := nodup_fieldsOf.1 hd f
  simp only [List.map_append, List.map_cons, List.count_append, List.count_cons_self] at hc
  have hn : f.name ∉ before.map Prod.fst := by
    intro h
    have := List.count_pos_iff.2 h
    omega
  rw [bne_iff_ne]
  rintro h
  exact hn (h ▸ List.mem_map_of_mem hb)

theorem tokens_of_admits (h : ms.lookup f.name = some v) (ha : f.admits v = true) :
    v.tokens = [(ofMembers ms).fieldToken f] := by
  cases f <;> cases v <;> simp_all [Field.admits, JsonValue.tokens, ofMembers, fieldToken]

theorem fieldToken_of_notMem (h : f ∉ fieldsOf ms) :
    (ofMembers ms).fieldToken f = ({} : Config).fieldToken f := by
  have hl : ms.lookup f.name = none := by
    refine List.lookup_eq_none_iff.2 fun m hm => ?_
    rw [bne_iff_ne]
    rintro hf
    exact h (mem_fieldsOf.2 (hf ▸ List.mem_map_of_mem hm))
  cases f <;> simp [ofMembers, fieldToken, hl]

end

/-- The values are of the kinds of their fields; those of other names are free. -/
def Typed (ms : List (String × JsonValue)) : Prop :=
  ∀ (f : Field) (v : JsonValue), (f.name, v) ∈ ms → f.admits v = true

namespace Reading

theorem gives_unknown (c : Config) {name : String} (h : Field.ofName? name = none)
    (v : JsonValue) : Gives c none (JsonValue.memberTokens (name, v)) := by
  intro fs place _ hp
  have hn : step ⟨.of c fs, place⟩ (.string (some name.toList)) = .ok ⟨.of c fs, .colon none⟩ := by
    rw [step_name hp, takeName, String.ofList_toList, h]
    rfl
  rw [JsonValue.memberTokens, List.foldlM_cons, hn, Option.toList_none, List.append_nil]
  exact foldlM_resume (Demand.run_tokens v [])

theorem gives_member {ms : List (String × JsonValue)} (ht : Typed ms) (hd : (fieldsOf ms).Nodup)
    {m : String × JsonValue} (hm : m ∈ ms) :
    Gives (ofMembers ms) (Field.ofName? m.1) (JsonValue.memberTokens m) := by
  obtain ⟨name, v⟩ := m
  cases hf : Field.ofName? name with
  | none => exact gives_unknown _ hf v
  | some f =>
    obtain rfl := Field.ofName?_eq_some_iff.1 hf
    rw [JsonValue.memberTokens, tokens_of_admits (lookup_of_mem hd hm) (ht f v hm)]
    exact gives_memberTokens (ofMembers ms) f

theorem step_repeated {c : Config} {fs : List Field} {f : Field} (h : f ∈ fs) :
    step ⟨.of c fs, .name⟩ (.string (some f.name.toList)) = .error (.repeated f) := by
  have hg : (Given.of c fs).has f = true := by
    rw [Given.has_of]
    exact decide_eq_true h
  rw [step_name (.inr rfl), takeName, String.ofList_toList, Field.ofName?_name]
  exact if_pos hg

end Reading

theorem ofTokens_object {ms : List (String × JsonValue)} (ht : Typed ms)
    (hd : (fieldsOf ms).Nodup) :
    ofTokens (JsonValue.object ms).tokens = .ok (ofMembers ms) := by
  have hm : ∀ m ∈ ms, Reading.Gives (ofMembers ms) (Field.ofName? m.1)
      (JsonValue.memberTokens m) := fun m hm => Reading.gives_member ht hd hm
  rw [JsonValue.tokens, ofTokens_members hm hd]
  exact congrArg Except.ok (Given.config_of fun f hf => fieldToken_of_notMem hf)

theorem exists_repetition {ms : List (String × JsonValue)} (h : ¬ (fieldsOf ms).Nodup) :
    ∃ before f v after, ms = before ++ (Field.name f, v) :: after ∧ f ∈ fieldsOf before ∧
      (fieldsOf before).Nodup := by
  induction ms using List.reverseRecOn with
  | nil => exact absurd List.nodup_nil h
  | append_singleton ms m ih =>
    by_cases hd : (fieldsOf ms).Nodup
    · obtain ⟨name, v⟩ := m
      rw [fieldsOf, List.filterMap_append, filterMap_cons_eq, List.filterMap_nil, List.append_nil,
        ← fieldsOf] at h
      cases hf : Field.ofName? name with
      | none => exact absurd hd (by simpa [hf] using h)
      | some f =>
        obtain rfl := Field.ofName?_eq_some_iff.1 hf
        have hm : f ∈ fieldsOf ms := by
          rw [hf, Option.toList_some, List.nodup_append_comm, List.singleton_append,
            List.nodup_cons] at h
          exact by_contra fun hn => h ⟨hn, hd⟩
        exact ⟨ms, f, v, [], rfl, hm, hd⟩
    · obtain ⟨before, f, v, after, rfl, hf, hb⟩ := ih hd
      exact ⟨before, f, v, after ++ [m], by simp, hf, hb⟩

/-- At the first member that repeats a field the reading ends, whatever comes after it. -/
theorem ofTokens_repeated {before after : List (String × JsonValue)} {f : Field} {v : JsonValue}
    (ht : Typed before) (hd : (fieldsOf before).Nodup) (hf : f ∈ fieldsOf before) :
    ofTokens (JsonValue.object (before ++ (f.name, v) :: after)).tokens = .error (.repeated f) := by
  have hm : ∀ m ∈ before, Reading.Gives (ofMembers before) (Field.ofName? m.1)
      (JsonValue.memberTokens m) := fun m hm => Reading.gives_member ht hd hm
  cases before with
  | nil => cases hf
  | cons b before =>
    have ho := Reading.foldlM_open (List.cons_ne_nil b before) hm hd
    rw [List.map_cons, Token.intercalate_comma] at ho
    have hs : ∀ ts, (.comma :: .string (some f.name.toList) :: ts).foldlM Reading.step
        ⟨.of (ofMembers (b :: before)) (fieldsOf (b :: before)), .afterMember⟩ =
          .error (.repeated f) := by
      intro ts
      rw [List.foldlM_cons]
      change (_ :: _).foldlM Reading.step ⟨_, .name⟩ = _
      rw [List.foldlM_cons, Reading.step_repeated hf]
      rfl
    rw [JsonValue.tokens, List.cons_append, List.map_cons, Token.intercalate_comma, List.map_append,
      List.map_cons, List.flatMap_append, List.flatMap_cons, ofTokens, ← List.append_assoc,
      List.append_assoc, ← List.cons_append, Reading.foldlM_append ho, JsonValue.memberTokens]
    exact congrArg (· >>= Reading.finish) (hs _)

def elementMembers (es : List JsonValue) : List (String × JsonValue) :=
  (Field.all.zip es).map fun p => (p.1.name, p.2)

theorem map_fst_zip_eq_take {α β : Type} (l : List α) (m : List β) :
    (l.zip m).map Prod.fst = l.take m.length := by
  induction l generalizing m with
  | nil => simp
  | cons a l ih => cases m <;> simp [ih]

theorem fieldsOf_elementMembers (es : List JsonValue) :
    fieldsOf (elementMembers es) = Field.all.take es.length := by
  rw [fieldsOf, elementMembers, List.filterMap_map, ← map_fst_zip_eq_take,
    ← List.filterMap_eq_map]
  exact List.filterMap_congr fun p _ => Field.ofName?_name p.1

theorem nodup_elementMembers (es : List JsonValue) : (fieldsOf (elementMembers es)).Nodup := by
  have hd : Field.all.Nodup := by decide
  rw [fieldsOf_elementMembers]
  exact hd.sublist (List.take_sublist _ _)

theorem map_tokens_elements {es : List JsonValue} (hl : es.length ≤ Field.all.length)
    (ht : Typed (elementMembers es)) :
    es.map JsonValue.tokens =
      (Field.all.take es.length).map fun f => [(ofMembers (elementMembers es)).fieldToken f] := by
  have hp : ∀ p ∈ Field.all.zip es,
      p.2.tokens = [(ofMembers (elementMembers es)).fieldToken p.1] := by
    rintro ⟨f, v⟩ hp
    have hm : (f.name, v) ∈ elementMembers es := List.mem_map_of_mem hp
    exact tokens_of_admits (lookup_of_mem (nodup_elementMembers es) hm) (ht f v hm)
  rw [← map_fst_zip_eq_take, List.map_map]
  conv_lhs => rw [← List.map_snd_zip hl]
  rw [List.map_map]
  exact List.map_congr_left hp

namespace Reading

theorem foldlM_elements (c : Config) {given fs later : List Field} :
    ((fs.map fun f => [c.fieldToken f]).flatMap (.comma :: ·)).foldlM step
        ⟨.of c given, .afterElement (fs ++ later)⟩ =
      .ok (⟨.of c (given ++ fs), .afterElement later⟩ : Reading) := by
  induction fs generalizing given with
  | nil => simp [pure, Except.pure]
  | cons f fs ih =>
    have hs : [.comma, c.fieldToken f].foldlM step
        ⟨.of c given, .afterElement (f :: fs ++ later)⟩ =
          .ok (⟨.of c (given ++ [f]), .afterElement (fs ++ later)⟩ : Reading) := by
      change (takeValue ⟨.of c given, .element f (fs ++ later)⟩ f (c.fieldToken f) _ >>= pure) = _
      rw [takeValue, Given.set_of]
      rfl
    rw [List.map_cons, List.flatMap_cons, foldlM_append hs, ih, List.append_assoc]
    rfl

end Reading

theorem ofTokens_elements (c : Config) {fs later : List Field} (h : Field.all = fs ++ later) :
    ofTokens (.openArray ::
        ([.comma].intercalate (fs.map fun f => [c.fieldToken f]) ++ [.closeArray])) =
      .ok (Given.of c fs).config := by
  cases fs with
  | nil => rfl
  | cons f fs =>
    obtain ⟨rfl, hs⟩ := List.cons_eq_cons.1 h
    have hf : [.openArray, c.fieldToken .lookupVar].foldlM Reading.step {} =
        .ok (⟨.of c [.lookupVar], .afterElement (fs ++ later)⟩ : Reading) := by
      change (Reading.takeValue ⟨.of c [], _⟩ .lookupVar (c.fieldToken .lookupVar)
        (.afterElement [.keyPrefix, .inlinePrimitives]) >>= pure) = _
      rw [Reading.takeValue, Given.set_of, hs]
      rfl
    have hc : ∀ g, [.closeArray].foldlM Reading.step ⟨g, .afterElement later⟩ =
        .ok (⟨g, .done⟩ : Reading) := by
      intro g
      cases later <;> rfl
    rw [List.map_cons, Token.intercalate_comma, List.append_assoc, ← List.cons_append, ofTokens,
      Reading.foldlM_append hf, Reading.foldlM_append (Reading.foldlM_elements c), hc]
    rfl

theorem ofTokens_array {es : List JsonValue} (hl : es.length ≤ Field.all.length)
    (ht : Typed (elementMembers es)) :
    ofTokens (JsonValue.array es).tokens = .ok (ofMembers (elementMembers es)) := by
  rw [JsonValue.tokens, map_tokens_elements hl ht,
    ofTokens_elements _ (List.take_append_drop _ _).symm, ← fieldsOf_elementMembers]
  exact congrArg Except.ok (Given.config_of fun f hf => fieldToken_of_notMem hf)

/-- An object is read as the settings that its members give, wherever they stand and whatever the
members of other names hold. When a field comes twice, the first member that repeats one is the
problem. An array of at most three values is read as the object of the first fields. -/
theorem member_lists_read :
    (∀ (members : List (String × JsonValue)) (text : String), Typed members →
      (JsonValue.object members).Written text.toList →
        ((∀ f : Field, (members.map Prod.fst).count f.name ≤ 1) →
          ofText text = .ok (ofMembers members)) ∧
        ((∃ f : Field, 2 ≤ (members.map Prod.fst).count f.name) →
          ∃ before f value after, members = before ++ (Field.name f, value) :: after ∧
            f.name ∈ before.map Prod.fst ∧
            (∀ g : Field, (before.map Prod.fst).count g.name ≤ 1) ∧
            ofText text = .error (.repeated f) ∧
            (Problem.repeated f).message? = some ("duplicate field `" ++ f.name ++ "`"))) ∧
      ∀ (elements : List JsonValue) (array object : String), elements.length ≤ 3 →
        Typed (elementMembers elements) →
          (JsonValue.array elements).Written array.toList →
            (JsonValue.object (elementMembers elements)).Written object.toList →
              ofText array = .ok (ofMembers (elementMembers elements)) ∧
                ofText array = ofText object := by
  refine ⟨fun members text ht hw => ⟨fun hc => ?_, ?_⟩, fun elements array object hl ht ha ho => ?_⟩
  · rw [ofText, hw.ofText_eq, ofTokens_object ht (nodup_fieldsOf.2 hc)]
  · rintro ⟨f, hf⟩
    have hd : ¬ (fieldsOf members).Nodup := by
      intro hd
      have := nodup_fieldsOf.1 hd f
      omega
    obtain ⟨before, f, value, after, rfl, hf, hb⟩ := exists_repetition hd
    have ht : Typed before := fun g v hm => ht g v (List.mem_append_left _ hm)
    refine ⟨before, f, value, after, rfl, mem_fieldsOf.1 hf, nodup_fieldsOf.1 hb, ?_, rfl⟩
    rw [ofText, hw.ofText_eq, ofTokens_repeated ht hb hf]
  · have hr : ofText array = .ok (ofMembers (elementMembers elements)) := by
      rw [ofText, ha.ofText_eq, ofTokens_array hl ht]
    refine ⟨hr, ?_⟩
    rw [hr, ofText, ho.ofText_eq, ofTokens_object ht (nodup_elementMembers elements)]

def nestedMembers : List (String × JsonValue) :=
  [("a", .array [.string "\x7d\"", .integer true 10]), ("keyPrefix", .string "k")]

def crossedMembers : List (String × JsonValue) :=
  [("keyPrefix", .string ""), ("lookupVar", .string "a"), ("lookupVar", .string "b"),
    ("keyPrefix", .string "k")]

def nestedText : String :=
  " \x7b \"a\" : [ \"\x7d\\\"\" , -10 ] , \"\\u006BeyPrefix\" : \"k\" \x7d "

def crossedText : String :=
  "\x7b\"keyPrefix\":\"\",\"lookupVar\":\"a\",\"lookupVar\":\"b\",\"keyPrefix\":\"k\"\x7d"

theorem written_nestedText : (JsonValue.object nestedMembers).Written nestedText.toList := by
  have hk : Token.Lexeme "\"\\u006BeyPrefix\"" (.string (some "keyPrefix".toList)) := by
    have hu : Quoted.Spelling 'k' ['\\', 'u', '0', '0', '6', 'B'] :=
      @Quoted.Spelling.units 'k' [['0', '0', '6', 'B']] <|
        .cons (.cons (.inl rfl) (.cons (.inl rfl) (.cons (.inl rfl) (.cons (.inr rfl) .nil)))) .nil
    exact .string (.cons hu (Quoted.forall₂_spelling_escape "eyPrefix".toList))
  have hl : List.Forall₂ Token.Lexeme
      ["\x7b", "\"a\"", ":", "[", "\"\x7d\\\"\"", ",", "-10", "]", ",", "\"\\u006BeyPrefix\"", ":",
        "\"k\"", "\x7d"] (JsonValue.object nestedMembers).tokens := by
    simp only [nestedMembers, JsonValue.tokens, JsonValue.memberTokens, List.map_cons, List.map_nil,
      List.intercalate_cons_cons, List.intercalate_singleton, List.cons_append, List.nil_append]
    exact .cons .openObject <| .cons (Token.lexeme_quote "a") <| .cons .colon <| .cons .openArray <|
      .cons (Token.lexeme_quote "\x7d\"") <| .cons .comma <| .cons (.integer true 10) <|
      .cons .closeArray <| .cons .comma <| .cons hk <| .cons .colon <|
      .cons (Token.lexeme_quote "k") <| .cons .closeObject .nil
  have hb : Token.Blanks [' '] := by simp [Token.Blanks, Token.isBlank]
  exact ⟨_, hl, Token.spaced_spread hb _⟩

theorem written_crossedText : (JsonValue.object crossedMembers).Written crossedText.toList := by
  have h : String.join (JsonValue.object crossedMembers).lexemes = crossedText := by
    simp only [crossedMembers, JsonValue.lexemes, JsonValue.memberLexemes, List.map_cons,
      List.map_nil, List.intercalate_cons_cons, List.intercalate_singleton]
    rfl
  rw [← h]
  exact JsonValue.written_join _

theorem written_oneElement : (JsonValue.array [.string "a"]).Written "[\"a\"]".toList := by
  have h : String.join (JsonValue.array [.string "a"]).lexemes = "[\"a\"]" := by
    simp only [JsonValue.lexemes, List.map_cons, List.map_nil, List.intercalate_singleton]
    rfl
  rw [← h]
  exact JsonValue.written_join _

theorem written_oneMember : (JsonValue.object (elementMembers [.string "a"])).Written
    "\x7b\"lookupVar\":\"a\"\x7d".toList := by
  have h : String.join (JsonValue.object [("lookupVar", .string "a")]).lexemes =
      "\x7b\"lookupVar\":\"a\"\x7d" := by
    simp only [JsonValue.lexemes, JsonValue.memberLexemes, List.map_cons, List.map_nil,
      List.intercalate_singleton]
    rfl
  rw [← h]
  exact JsonValue.written_join _

theorem member_lists_read_nestedAndCrossed :
    ofText nestedText = .ok ⟨"ctx", "k", true⟩ ∧
      (∃ before f value after, crossedMembers = before ++ (Field.name f, value) :: after ∧
        f.name ∈ before.map Prod.fst ∧ (∀ g : Field, (before.map Prod.fst).count g.name ≤ 1) ∧
        ofText crossedText = .error (.repeated f) ∧
        (Problem.repeated f).message? = some ("duplicate field `" ++ f.name ++ "`")) ∧
      ofText "[\"a\"]" = .ok ⟨"a", "$e_", true⟩ ∧
      ofText "[\"a\"]" = ofText "\x7b\"lookupVar\":\"a\"\x7d" := by
  have hn : Typed nestedMembers := by
    rintro (_ | _ | _) v h <;> simp_all [nestedMembers, Field.name, Field.admits]
  have hc : Typed crossedMembers := by
    rintro (_ | _ | _) v h <;> simp [crossedMembers, Field.name] at h <;> grind [Field.admits]
  have he : Typed (elementMembers [.string "a"]) := by
    rintro (_ | _ | _) v h <;> simp_all [elementMembers, Field.all, Field.name, Field.admits]
  refine ⟨?_, ?_, ?_⟩
  · refine (member_lists_read.1 nestedMembers _ hn written_nestedText).1 fun f => ?_
    cases f <;> decide
  · exact (member_lists_read.1 crossedMembers _ hc written_crossedText).2 ⟨.keyPrefix, by decide⟩
  · exact member_lists_read.2 [.string "a"] _ _ (by decide) he written_oneElement written_oneMember

end Splice.Config
