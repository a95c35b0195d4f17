import Splice.Proofs.Rendering

namespace Splice

variable {P : Type}

namespace Registry

theorem recordAll_of_known {r : Registry P} {qs : List (Request P)}
    (h : ∀ q ∈ qs, (r.table.key? q.2).isSome = true) : r.recordAll qs = r := by
  induction qs with
  | nil => rfl
  | cons q qs ih =>
    obtain ⟨key, hk⟩ := Option.isSome_iff_exists.1 (h q List.mem_cons_self)
    have ht := ih fun p hp => h p (List.mem_cons_of_mem q hp)
    rw [recordAll, List.foldl_cons, record_of_known hk]
    exact ht

theorem Records.known {qs : List (Request P)} {r : Registry P} (h : Records qs r) :
    ∀ q ∈ qs, (r.table.key? q.2).isSome = true := by
  intro q hq
  rw [h.key?_eq, Option.isSome_map, Option.isSome_iff_ne_none]
  intro hn
  exact Request.first?_eq_none_iff.1 hn q hq rfl

end Registry

def Uniform (driven : Bool) (passes : List (Option (Value P))) : Prop :=
  ∀ driver ∈ passes, driver.isSome = driven

theorem uniform_none : Uniform false [(none : Option (Value P))] := by
  intro driver hd
  rw [List.mem_singleton.1 hd]
  rfl

theorem uniform_some (drivers : List (Value P)) : Uniform true (drivers.map some) := by
  intro driver hd
  obtain ⟨v, -, rfl⟩ := List.mem_map.1 hd
  rfl

theorem Uniform.of_append {driven : Bool} {passes rest : List (Option (Value P))}
    (h : Uniform driven (passes ++ rest)) : Uniform driven passes :=
  fun driver hd => h driver (List.mem_append_left rest hd)

namespace Draft

/-- The draft after one pass for each driver; a pass without a driver shows items as they are. -/
def run (c : Config) (t : Template P) (passes : List (Option (Value P))) : Draft P :=
  passes.foldl (fun d driver => d.pass c t driver) {}

theorem run_append_singleton (c : Config) (t : Template P) (passes : List (Option (Value P)))
    (driver : Option (Value P)) :
    run c t (passes ++ [driver]) = (run c t passes).pass c t driver := by
  simp [run, List.foldl_append]

theorem registry_run (c : Config) (t : Template P) (passes : List (Option (Value P))) :
    (run c t passes).registry =
      Registry.recordAll {} (passes.flatMap fun driver => t.requests c driver.isSome) := by
  induction passes using List.reverseRecOn with
  | nil => rfl
  | append_singleton passes driver ih =>
    rw [run_append_singleton, registry_pass, ih, ← Registry.recordAll_append, List.flatMap_append]
    simp

/-- From the first pass on, passes of one kind have registered what one of them registers. -/
theorem registry_run_of_ne_nil (c : Config) (t : Template P) {driven : Bool}
    {passes : List (Option (Value P))} (hp : Uniform driven passes) (hn : passes ≠ []) :
    (run c t passes).registry = t.registry c driven := by
  induction passes using List.reverseRecOn with
  | nil => exact absurd rfl hn
  | append_singleton passes driver ih =>
    have hd : driver.isSome = driven := hp driver (List.mem_append_right _ List.mem_cons_self)
    rw [run_append_singleton, registry_pass, hd]
    by_cases he : passes = []
    · subst he
      rfl
    · rw [ih hp.of_append he]
      exact Registry.recordAll_of_known (t.records_registry c driven).known

theorem bindings_run (c : Config) (t : Template P) {driven : Bool}
    {passes : List (Option (Value P))} (hp : Uniform driven passes) (hn : passes ≠ []) :
    (run c t passes).bindings = (t.registry c driven).bindings :=
  congrArg Registry.bindings (registry_run_of_ne_nil c t hp hn)

theorem source_run (c : Config) (t : Template P) {driven : Bool} {passes : List (Option (Value P))}
    (hp : Uniform driven passes) :
    (run c t passes).source =
      .join (passes.map (t.render c (t.registry c driven).table.keyOf)) := by
  induction passes using List.reverseRecOn with
  | nil => rfl
  | append_singleton passes driver ih =>
    have hr := registry_run_of_ne_nil c t hp (List.append_ne_nil_of_right_ne_nil _ (by simp))
    rw [run_append_singleton] at hr ⊢
    have hu : (t.registry c driven).table.Extends ((run c t passes).pass c t driver).table := by
      rw [← hr]
      exact KeyTable.Extends.refl _
    rw [source_pass _ c t driver hu, ih hp.of_append, List.map_append, String.join_append]
    simp

end Draft

namespace Config

theorem expand_eq_run (c : Config) (t : Template P) :
    c.expand t = (Draft.run c t [none]).finish := rfl

theorem expandEach_eq_run (c : Config) (drivers : List (Value P)) (t : Template P) :
    c.expandEach drivers t = (Draft.run c t (drivers.map some)).finish := by
  rw [Draft.run, List.foldl_map]
  rfl

theorem source_expand (c : Config) (t : Template P) :
    (c.expand t).source = t.render c (t.registry c false).table.keyOf none := by
  have h := Draft.source_run c t uniform_none
  rw [expand_eq_run]
  simpa [Draft.finish] using h

theorem bindings_expand (c : Config) (t : Template P) :
    (c.expand t).bindings = (t.registry c false).bindings :=
  Draft.bindings_run c t uniform_none (List.cons_ne_nil _ _)

theorem source_expandEach (c : Config) (drivers : List (Value P)) (t : Template P) :
    (c.expandEach drivers t).source =
      .join (drivers.map fun v => t.render c (t.registry c true).table.keyOf (some v)) := by
  have h := Draft.source_run c t (uniform_some drivers)
  rw [expandEach_eq_run]
  simpa [Draft.finish, Function.comp_def] using h

theorem bindings_expandEach_cons (c : Config) (v : Value P) (vs : List (Value P)) (t : Template P) :
    (c.expandEach (v :: vs) t).bindings = (t.registry c true).bindings := by
  rw [expandEach_eq_run]
  exact Draft.bindings_run c t (uniform_some (v :: vs)) (List.cons_ne_nil _ _)

/-- Joining driver lists joins the texts, although the second half finds all keys given already.
The bindings are those of any other drivers, as long as there is one. -/
theorem expandEach_append_and_bindings (c : Config) (t : Template P) :
    (∀ vs ws : List (Value P), (c.expandEach (vs ++ ws) t).source =
      (c.expandEach vs t).source ++ (c.expandEach ws t).source) ∧
    (∀ (v w : Value P) (vs ws : List (Value P)),
      (c.expandEach (v :: vs) t).bindings = (c.expandEach (w :: ws) t).bindings) ∧
    c.expandEach [] t = .empty := by
  refine ⟨?_, ?_, rfl⟩
  · intro vs ws
    simp only [source_expandEach]
    rw [List.map_append, String.join_append]
  · intro v w vs ws
    rw [bindings_expandEach_cons, bindings_expandEach_cons]

end Config

end Splice
