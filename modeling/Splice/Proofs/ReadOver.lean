import Splice.Config.Reader
import Splice.Proofs.JsonText

namespace Splice

namespace Demand

def run (ds : List Demand) (ts : List Token) : Option (List Demand) := ts.foldlM step? ds

theorem run_cons {ds es : List Demand} {t : Token} (h : step? ds t = some es) (ts : List Token) :
    run ds (t :: ts) = run es ts := by
  rw [run, List.foldlM_cons, h]
  rfl

theorem run_append {ds es : List Demand} {ts : List Token} (h : run ds ts = some es)
    (us : List Token) : run ds (ts ++ us) = run es us := by
  rw [run, List.foldlM_append]
  rw [run] at h
  rw [h]
  rfl

theorem run_items {ds : List Demand} {tss : List (List Token)}
    (h : ∀ ts ∈ tss, run ds (.comma :: ts) = some ds) :
    run ds (tss.flatMap (.comma :: ·)) = some ds := by
  induction tss with
  | nil => rfl
  | cons ts tss ih =>
    obtain ⟨hs, ht⟩ := List.forall_mem_cons.1 h
    rw [List.flatMap_cons, run_append hs, ih ht]

theorem run_elementOrClose (v : JsonValue) (ds : List Demand) :
    run (.elementOrClose :: ds) v.tokens = run (.value :: .afterElement :: ds) v.tokens := by
  cases v <;> rw [JsonValue.tokens] <;> rfl

theorem run_member {ds es : List Demand} {name : String} {v : JsonValue}
    (hs : ∀ s, step? ds (.string s) = some (.colon :: es))
    (hv : run (.value :: .afterMember :: es) v.tokens = some (.afterMember :: es)) :
    run ds (JsonValue.memberTokens (name, v)) = some (.afterMember :: es) := by
  rw [JsonValue.memberTokens, run_cons (hs _), run_cons rfl, hv]

/-- The demand for a value is met by the tokens of the value and by no part of them. -/
theorem run_tokens (v : JsonValue) (ds : List Demand) : run (.value :: ds) v.tokens = some ds := by
  induction v using JsonValue.structural generalizing ds with
  | null => rw [JsonValue.tokens]; rfl
  | bool b => rw [JsonValue.tokens]; rfl
  | integer negative n => rw [JsonValue.tokens]; rfl
  | string s => rw [JsonValue.tokens]; rfl
  | array es ih =>
    rw [JsonValue.tokens, run_cons rfl]
    cases es with
    | nil => rfl
    | cons e es =>
      obtain ⟨he, hs⟩ := List.forall_mem_cons.1 ih
      -- the first element stands where the bracket might, the others come with a comma each
      have hf := (run_elementOrClose e ds).trans (he _)
      have hi : run (.afterElement :: ds) ((es.map JsonValue.tokens).flatMap (.comma :: ·)) =
          some (.afterElement :: ds) :=
        run_items <| List.forall_mem_map.2 fun e' hm => hs e' hm (.afterElement :: ds)
      rw [List.map_cons, Token.intercalate_comma, List.append_assoc, run_append hf, run_append hi]
      rfl
  | object ms ih =>
    rw [JsonValue.tokens, run_cons rfl]
    cases ms with
    | nil => rfl
    | cons m ms =>
      obtain ⟨hm, hs⟩ := List.forall_mem_cons.1 ih
      have hf : run (.nameOrClose :: ds) (JsonValue.memberTokens m) = some (.afterMember :: ds) :=
        run_member (fun _ => rfl) (hm _)
      have hi : run (.afterMember :: ds) ((ms.map JsonValue.memberTokens).flatMap (.comma :: ·)) =
          some (.afterMember :: ds) :=
        run_items <| List.forall_mem_map.2 fun m' hm => run_member (fun _ => rfl) (hs m' hm _)
      rw [List.map_cons, Token.intercalate_comma, List.append_assoc, run_append hf, run_append hi]
      rfl

end Demand

namespace Config.Reading

open Demand (run)

def resume : List Demand → Place
  | [] => .afterMember
  | ds => .within ds

variable {g : Given}

theorem step_resume {ds es : List Demand} {t : Token} (h : Demand.step? ds t = some es) :
    step ⟨g, resume ds⟩ t = .ok ⟨g, resume es⟩ := by
  cases ds with
  | nil => cases h
  | cons d ds => cases es <;> simp [step, resume, moveTo, h]

theorem foldlM_resume {ds es : List Demand} {ts : List Token} (h : run ds ts = some es) :
    ts.foldlM step ⟨g, resume ds⟩ = .ok (⟨g, resume es⟩ : Reading) := by
  induction ts generalizing ds with
  | nil => cases h; rfl
  | cons t ts ih =>
    rw [run, List.foldlM_cons] at h
    obtain ⟨fs, ht, hs⟩ := Option.bind_eq_some_iff.1 h
    rw [List.foldlM_cons, step_resume ht]
    exact ih hs

end Config.Reading

end Splice
