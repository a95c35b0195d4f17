import Mathlib.Data.Finset.Card
import Splice.Proofs.Registry
import Splice.Proofs.Sameness

namespace Splice

variable {P : Type}

namespace Value

instance argument : Setoid (Value P) where
  r v w := v.same w = true
  iseqv := equivalence_same

instance (v w : Value P) : Decidable (v ≈ w) := inferInstanceAs (Decidable (v.same w = true))

end Value

namespace Request

def arguments (qs : List (Request P)) : Finset (Quotient (@Value.argument P)) :=
  (qs.map fun q => ⟦q.2⟧).toFinset

theorem mem_arguments_iff {qs : List (Request P)} {v : Value P} :
    ⟦v⟧ ∈ arguments qs ↔ first? qs v.identity ≠ none := by
  have hs : ∀ w : Value P, (⟦w⟧ : Quotient Value.argument) = ⟦v⟧ ↔ w.identity = v.identity :=
    fun w => Quotient.eq.trans (Value.same_iff_identity_eq w v)
  simp [arguments, first?_eq_none_iff, hs]

theorem arguments_append_singleton (qs : List (Request P)) (q : Request P) :
    arguments (qs ++ [q]) = insert ⟦q.2⟧ (arguments qs) := by
  ext a
  simp [arguments]

theorem find?_same (qs : List (Request P)) (v : Value P) :
    (qs.find? fun p => p.2.same v) = first? qs v.identity := by
  simp only [first?, same_eq_decide]

end Request

/-- What a request has to be answered after the earlier ones: with its own key if none of them is for
its argument, or else with the key of the first one that is. -/
structure Registration.Answers (earlier : List (Request P)) (q : Request P) (r : Registration) :
    Prop where
  fresh_iff : r = .fresh q.1 ↔ ∀ p ∈ earlier, p.2.same q.2 = false
  reused : (∃ p ∈ earlier, p.2.same q.2 = true) →
    ∃ before p after, earlier = before ++ p :: after ∧ p.2.same q.2 = true ∧
      (∀ b ∈ before, b.2.same q.2 = false) ∧ r = .reused p.1

namespace KeyTable

def registerAll (t : KeyTable) : List (Request P) → List Registration × KeyTable
  | [] => ([], t)
  | q :: qs =>
    let answer := t.register q.2 q.1
    let run := answer.2.registerAll qs
    (answer.1 :: run.1, run.2)

structure Remembers (t : KeyTable) (qs : List (Request P)) : Prop where
  keys : ∀ id, t.keys[id]? = (Request.first? qs id).map Prod.fst
  size : t.size = (Request.arguments qs).card

theorem remembers_empty : Remembers {} ([] : List (Request P)) := by
  refine ⟨?_, rfl⟩
  intro id
  simp [Request.first?]

namespace Remembers

variable {t : KeyTable} {qs : List (Request P)}

theorem key?_eq (h : t.Remembers qs) (v : Value P) :
    t.key? v = (Request.first? qs v.identity).map Prod.fst :=
  h.keys v.identity

theorem key?_eq_none_iff (h : t.Remembers qs) (v : Value P) :
    t.key? v = none ↔ ⟦v⟧ ∉ Request.arguments qs := by
  rw [h.key?_eq, Option.map_eq_none_iff, Request.mem_arguments_iff, not_not]

theorem register (h : t.Remembers qs) (q : Request P) :
    (t.register q.2 q.1).2.Remembers (qs ++ [q]) := by
  refine ⟨keys_register h.keys q, ?_⟩
  have hn := h.key?_eq_none_iff q.2
  rw [size_register, h.size, Request.arguments_append_singleton, Finset.card_insert_eq_ite]
  by_cases hq : ⟦q.2⟧ ∈ Request.arguments qs
  · rw [if_neg (mt hn.1 (not_not.2 hq)), if_pos hq]
  · rw [if_pos (hn.2 hq), if_neg hq]

theorem answers (h : t.Remembers qs) (q : Request P) : (t.register q.2 q.1).1.Answers qs q := by
  have hk := h.key?_eq q.2
  rw [← Request.find?_same] at hk
  unfold KeyTable.register
  cases hf : qs.find? fun p => p.2.same q.2 with
  | none =>
    have hn : ∀ p ∈ qs, p.2.same q.2 = false := by simpa using hf
    rw [hk, hf]
    refine ⟨iff_of_true rfl hn, ?_⟩
    rintro ⟨p, hp, hs⟩
    rw [hn p hp] at hs
    cases hs
  | some p =>
    obtain ⟨hs, before, after, rfl, hb⟩ := List.find?_eq_some_iff_append.1 hf
    have hn : ¬ ∀ r ∈ before ++ p :: after, r.2.same q.2 = false := by
      intro hn
      rw [hn p (List.mem_append_right before List.mem_cons_self)] at hs
      cases hs
    rw [hk, hf]
    refine ⟨iff_of_false nofun hn, fun _ => ⟨before, p, after, rfl, hs, ?_, rfl⟩⟩
    simpa using hb

theorem registerAll (h : t.Remembers qs) (rs : List (Request P)) :
    (t.registerAll rs).2.Remembers (qs ++ rs) := by
  induction rs generalizing t qs with
  | nil =>
    rw [List.append_nil]
    exact h
  | cons r rs ih =>
    rw [List.append_cons]
    exact ih (h.register r)

theorem answers_registerAll (h : t.Remembers qs) {rs : List (Request P)} {i : Nat} {r : Request P}
    (hi : rs[i]? = some r) :
    ∃ a, (t.registerAll rs).1[i]? = some a ∧ a.Answers (qs ++ rs.take i) r := by
  induction rs generalizing t qs i with
  | nil => cases hi
  | cons q rs ih =>
    cases i with
    | zero =>
      obtain rfl := Option.some.inj hi
      rw [List.take_zero, List.append_nil]
      exact ⟨_, rfl, h.answers q⟩
    | succ i =>
      rw [List.take_succ_cons, List.append_cons]
      exact ih (h.register q) hi

end Remembers

theorem remembers_registerAll (qs : List (Request P)) : ((registerAll {} qs).2).Remembers qs :=
  remembers_empty.registerAll qs

/-- In any history of requests, each is answered with its own key just if it is the first one for its
argument, and with the key of that first one otherwise. What is asked for later changes no key, and
there are as many keys as arguments. -/
theorem registrations_follow_history (qs : List (Request P)) :
    (∀ (i : Nat) (q : Request P), qs[i]? = some q →
      ∃ a, (registerAll {} qs).1[i]? = some a ∧ a.Answers (qs.take i) q) ∧
    (∀ rs : List (Request P), (registerAll {} (qs ++ rs)).2.Extends (registerAll {} qs).2) ∧
    (registerAll {} qs).2.size = (Request.arguments qs).card := by
  have hq := remembers_registerAll qs
  refine ⟨fun i q hi => ?_, fun rs id key hk => ?_, hq.size⟩
  · exact remembers_empty.answers_registerAll hi
  · have hr := remembers_registerAll (qs ++ rs)
    rw [hq.keys] at hk
    rw [hr.keys, Request.first?_append]
    obtain ⟨p, hp, rfl⟩ := Option.map_eq_some_iff.1 hk
    rw [hp]
    rfl

def mixedRequests : List (Request Payload) :=
  [("a", .number .zero), ("b", .number .nan), ("b", .number { Binary64.zero with negative := true }),
    ("a", .string "0"), ("c", .number { Binary64.nan with negative := true })]

theorem registrations_follow_history_mixed :
    mixedRequests[3]? = some ("a", .string "0") ∧
      (registerAll {} mixedRequests).1[3]? = some (.fresh "a") ∧
      mixedRequests[4]? = some ("c", .number { Binary64.nan with negative := true }) ∧
      ∃ r, (registerAll {} mixedRequests).1[4]? = some r ∧
        r.Answers (mixedRequests.take 4) ("c", .number { Binary64.nan with negative := true }) := by
  have h := (registrations_follow_history mixedRequests).1
  obtain ⟨r, hr, ha⟩ := h 3 _ rfl
  have hf := ha.fresh_iff.2 (by decide)
  rw [hf] at hr
  exact ⟨rfl, hr, rfl, h 4 _ rfl⟩

end KeyTable

end Splice
