import Mathlib.Logic.Function.Iterate
import Splice.Evaluation

namespace Splice

variable {P : Type}

namespace Failure

def cause? : Failure → Option Failure
  | .root _ => none
  | .causedBy _ cause => some cause

/-- The failure that is reached by going on to the cause `n` times. -/
def causeAfter (f : Failure) (n : Nat) : Option Failure := (fun g => g.bind cause?)^[n] (some f)

theorem causeAfter_succ (f : Failure) (n : Nat) :
    f.causeAfter (n + 1) = f.cause?.bind (causeAfter · n) := by
  rw [causeAfter, Function.iterate_succ_apply, Option.bind_some]
  cases f with
  | root text =>
    rw [cause?, Option.bind_none]
    exact Function.iterate_fixed rfl n
  | causedBy text g => rfl

theorem getElem?_chain (f : Failure) (n : Nat) : f.chain[n]? = (f.causeAfter n).map text := by
  induction f generalizing n with
  | root text =>
    cases n with
    | zero => rfl
    | succ n => simp [chain, causeAfter_succ, cause?]
  | causedBy text g ih =>
    cases n with
    | zero => rfl
    | succ n => simp [chain, causeAfter_succ, cause?, ih]

theorem ofChain?_chain (f : Failure) : ofChain? f.chain = some f := by
  induction f with
  | root text => rfl
  | causedBy text cause ih => simp [chain, ofChain?, ih]

theorem exists_chain (text : String) (causes : List String) :
    ∃ f : Failure, f.chain = text :: causes := by
  induction causes generalizing text with
  | nil => exact ⟨.root text, rfl⟩
  | cons t causes ih =>
    obtain ⟨f, hf⟩ := ih t
    exact ⟨.causedBy text f, by rw [chain, hf]⟩

end Failure

structure Handover (P : Type) where
  params : List String
  body : String
  bindings : Bindings P

namespace Handover

def echo : Evaluator (Handover P) P := fun params body bindings => .ok ⟨params, body, bindings⟩

def give {α : Type} (h : Handover P) (evaluate : Evaluator α P) : Except Failure α :=
  evaluate h.params h.body h.bindings

end Handover

/-- An error that stands for the failure of an evaluator and for all that caused it. -/
structure CompileError.Wraps (err : CompileError) (failure : Failure) : Prop where
  eq : err = .evaluator failure
  message_eq : err.message = "evaluator rejected generated source: " ++ failure.text
  head_sources : err.sources.head? = some failure.text
  getElem?_sources : ∀ n, err.sources[n]? = (failure.causeAfter n).map Failure.text
  complete : Failure.ofChain? err.sources = some failure

theorem CompileError.wraps_evaluator (failure : Failure) :
    (CompileError.evaluator failure).Wraps failure := by
  have hs := failure.getElem?_chain
  refine ⟨rfl, rfl, ?_, hs, failure.ofChain?_chain⟩
  rw [List.head?_eq_getElem?]
  exact hs 0

namespace Config

def handover (c : Config) (e : Expansion P) (params : List String) : Handover P :=
  ⟨c.lookupVar :: params, e.source, e.bindings⟩

variable {α : Type} {c : Config} {params : List String}

theorem compile_of_mem (h : c.lookupVar ∈ params) (e : Expansion P) (evaluate : Evaluator α P) :
    c.compile e params evaluate = .error (.shadowedLookupVar c.lookupVar) :=
  if_pos h

theorem compile_of_ok (h : c.lookupVar ∉ params) {e : Expansion P} {evaluate : Evaluator α P}
    {a : α}
    (ha : (c.handover e params).give evaluate = .ok a) : c.compile e params evaluate = .ok a := by
  rw [Handover.give, handover] at ha
  rw [compile, if_neg h, ha]

theorem compile_of_error (h : c.lookupVar ∉ params) {e : Expansion P} {evaluate : Evaluator α P}
    {failure : Failure} (hf : (c.handover e params).give evaluate = .error failure) :
    c.compile e params evaluate = .error (.evaluator failure) := by
  rw [Handover.give, handover] at hf
  rw [compile, if_neg h, hf]

theorem compile_eq_shadowed_iff (e : Expansion P) (evaluate : Evaluator α P) (name : String) :
    c.compile e params evaluate = .error (.shadowedLookupVar name) ↔
      c.lookupVar ∈ params ∧ name = c.lookupVar := by
  by_cases h : c.lookupVar ∈ params
  · rw [compile_of_mem h]
    simp [h, eq_comm]
  · cases hg : (c.handover e params).give evaluate with
    | ok a => simp [compile_of_ok h hg, h]
    | error failure => simp [compile_of_error h hg, h]

/-- The parameters are refused exactly if the lookup variable is among them, whatever the evaluator
would say. Otherwise the evaluator is handed that variable once, before the parameters in their
order, with the text and the bindings as they are; its answer is the result, and its failure is
wrapped with the whole chain of its causes, however long. -/
theorem compile_contract (c : Config) (e : Expansion P) (params : List String) :
    (∀ {α : Type} (evaluate : Evaluator α P) (name : String),
      c.compile e params evaluate = .error (.shadowedLookupVar name) ↔
        c.lookupVar ∈ params ∧ name = c.lookupVar) ∧
    (c.lookupVar ∈ params →
      ∀ {α : Type} (f g : Evaluator α P), c.compile e params f = c.compile e params g) ∧
    (c.lookupVar ∉ params →
      c.compile e params Handover.echo = .ok (c.handover e params) ∧
      (c.handover e params).params.count c.lookupVar = 1 ∧
      ∀ {α : Type} (evaluate : Evaluator α P),
        (∀ a, c.compile e params evaluate = .ok a ↔
          (c.handover e params).give evaluate = .ok a) ∧
        ∀ err, c.compile e params evaluate = .error err ↔
          ∃ failure, (c.handover e params).give evaluate = .error failure ∧ err.Wraps failure) ∧
    ∀ (text : String) (causes : List String),
      ∃ failure, (CompileError.evaluator failure).sources = text :: causes := by
  refine ⟨compile_eq_shadowed_iff e, fun h _ f g => ?_, fun h => ⟨?_, ?_, fun evaluate => ?_⟩,
    Failure.exists_chain⟩
  · rw [compile_of_mem h, compile_of_mem h]
  · exact compile_of_ok h rfl
  · rw [handover, List.count_cons_self, List.count_eq_zero_of_not_mem h]
  · cases hg : (c.handover e params).give evaluate with
    | ok a => simp [compile_of_ok h hg]
    | error failure =>
      rw [compile_of_error h hg]
      refine ⟨fun a => by simp, fun err => ⟨?_, ?_⟩⟩
      · intro he
        cases he
        exact ⟨failure, rfl, CompileError.wraps_evaluator failure⟩
      · rintro ⟨_, hf, hw⟩
        cases hf
        rw [hw.eq]

def handMade : Expansion := ⟨"return f(model)", .ofList [("k", .null), ("k", .bool true)]⟩

def refuse : Evaluator String :=
  fun _ _ _ => .error (.causedBy "refused" (.causedBy "unreadable" (.root "unclosed")))

theorem compile_contract_repeatedParams :
    "ctx" ∈ ["model", "ctx", "model"] ∧
      ({} : Config).compile handMade ["model", "ctx", "model"] refuse =
        ({} : Config).compile handMade ["model", "ctx", "model"] (fun _ body _ => .ok body) ∧
      "ctx" ∉ ["model", "model"] ∧
      ({} : Config).compile handMade ["model", "model"] Handover.echo =
        .ok ⟨["ctx", "model", "model"], handMade.source, handMade.bindings⟩ ∧
      ∃ err, ({} : Config).compile handMade ["model", "model"] refuse = .error err ∧
        err.Wraps (.causedBy "refused" (.causedBy "unreadable" (.root "unclosed"))) := by
  have hm : "ctx" ∈ ["model", "ctx", "model"] := by decide
  have hn : "ctx" ∉ ["model", "model"] := by decide
  have h := (compile_contract {} handMade ["model", "model"]).2.2.1 hn
  refine ⟨hm, (compile_contract {} handMade ["model", "ctx", "model"]).2.1 hm _ _, hn, h.1, ?_⟩
  have hw := CompileError.wraps_evaluator
    (.causedBy "refused" (.causedBy "unreadable" (.root "unclosed")))
  exact ⟨_, ((h.2.2 refuse).2 _).2 ⟨_, rfl, hw⟩, hw⟩

end Config

end Splice
