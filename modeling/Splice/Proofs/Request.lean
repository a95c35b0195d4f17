import Mathlib.Data.List.Induction
import Splice.Proofs.Identity

namespace Splice

variable {P : Type}

/-- A value that is to be registered, after the key that it gets if it is new. -/
abbrev Request (P : Type) := String × Value P

namespace Request

def first? (qs : List (Request P)) (id : Identity) : Option (Request P) :=
  qs.find? fun q => decide (q.2.identity = id)

def firsts (qs : List (Request P)) : List (Request P) := qs.eraseDupsBy fun p q => p.2.same q.2

def Fits (qs : List (Request P)) (q : Request P) : Prop :=
  ∀ p ∈ qs, p.1 = q.1 → p.2.identity = q.2.identity

def Consistent (qs : List (Request P)) : Prop := ∀ q ∈ qs, Fits qs q

theorem Consistent.of_append {ps qs : List (Request P)} (h : Consistent (ps ++ qs)) :
    Consistent ps := by
  intro q hq p hp
  exact h q (List.mem_append_left qs hq) p (List.mem_append_left qs hp)

theorem Consistent.fits {qs : List (Request P)} {q : Request P} (h : Consistent (qs ++ [q])) :
    Fits qs q := by
  intro p hp
  exact h q (List.mem_append_right qs List.mem_cons_self) p (List.mem_append_left [q] hp)

theorem same_eq_decide (v w : Value P) : v.same w = decide (v.identity = w.identity) := by
  rw [Bool.eq_iff_iff, Value.same_iff_identity_eq, decide_eq_true_iff]

theorem first?_append (ps qs : List (Request P)) (id : Identity) :
    first? (ps ++ qs) id = (first? ps id).or (first? qs id) :=
  List.find?_append

theorem first?_append_singleton (qs : List (Request P)) (q : Request P) (id : Identity) :
    first? (qs ++ [q]) id =
      (first? qs id).or (if q.2.identity = id then some q else none) := by
  rw [first?_append]
  congr 1
  by_cases h : q.2.identity = id <;> simp [first?, h]

theorem identity_of_first? {qs : List (Request P)} {q : Request P} {id : Identity}
    (h : first? qs id = some q) : q.2.identity = id := by
  simpa using List.find?_some h

theorem mem_of_first? {qs : List (Request P)} {q : Request P} {id : Identity}
    (h : first? qs id = some q) : q ∈ qs :=
  List.mem_of_find?_eq_some h

theorem first?_eq_none_iff {qs : List (Request P)} {id : Identity} :
    first? qs id = none ↔ ∀ q ∈ qs, q.2.identity ≠ id := by
  simp [first?]

def others (p : Request P) (qs : List (Request P)) : List (Request P) :=
  qs.filter fun q => decide (q.2.same p.2 = false)

theorem length_others_le (p : Request P) (qs : List (Request P)) :
    (others p qs).length ≤ qs.length :=
  List.length_filter_le _ qs

theorem first?_others {p : Request P} {id : Identity} (h : p.2.identity ≠ id)
    (qs : List (Request P)) : first? (others p qs) id = first? qs id := by
  unfold first? others
  rw [List.find?_filter]
  congr 1
  funext q
  by_cases hq : q.2.identity = id
  · simp [same_eq_decide, hq, Ne.symm h]
  · simp [hq]

theorem others_append_singleton (p : Request P) (qs : List (Request P)) (q : Request P) :
    others p (qs ++ [q]) =
      others p qs ++ (if p.2.identity = q.2.identity then [] else [q]) := by
  rw [others, List.filter_append]
  congr 1
  by_cases h : p.2.identity = q.2.identity
  · simp [same_eq_decide, h]
  · simp [same_eq_decide, h, Ne.symm h]

theorem firsts_cons (p : Request P) (qs : List (Request P)) :
    firsts (p :: qs) = p :: firsts (others p qs) :=
  List.eraseDupsBy_cons

theorem firsts_append_singleton (qs : List (Request P)) (q : Request P) :
    firsts (qs ++ [q]) = firsts qs ++ (if first? qs q.2.identity = none then [q] else []) := by
  -- on the length, since `others` is not a tail
  induction hn : qs.length using Nat.strongRecOn generalizing qs with
  | ind n ih =>
    cases qs with
    | nil => rfl
    | cons p qs =>
      have hl : (others p qs).length < n := by
        have := length_others_le p qs
        rw [List.length_cons] at hn
        omega
      have hf := ih _ hl _ rfl
      rw [List.cons_append, firsts_cons, firsts_cons, others_append_singleton]
      by_cases h : p.2.identity = q.2.identity
      · have hs : first? (p :: qs) q.2.identity = some p := by simp [first?, h]
        simp [hs, h]
      · have hs : first? (p :: qs) q.2.identity = first? qs q.2.identity := by simp [first?, h]
        rw [first?_others h] at hf
        rw [if_neg h, hf, hs, List.cons_append]

theorem mem_firsts_iff {qs : List (Request P)} {q : Request P} :
    q ∈ firsts qs ↔ first? qs q.2.identity = some q := by
  induction qs using List.reverseRecOn with
  | nil => simp [firsts, first?]
  | append_singleton qs p ih =>
    rw [firsts_append_singleton, first?_append_singleton, List.mem_append, ih]
    cases h : first? qs q.2.identity with
    | some x =>
      -- the argument of `q` has been asked for, so `p` is new only if it is for another one
      rw [Option.some_or]
      refine ⟨fun hq => hq.elim id fun hp => ?_, Or.inl⟩
      by_cases hn : first? qs p.2.identity = none
      · rw [if_pos hn, List.mem_singleton] at hp
        rw [hp, hn] at h
        cases h
      · rw [if_neg hn] at hp
        cases hp
    | none =>
      rw [Option.none_or]
      constructor
      · rintro (hq | hq)
        · cases hq
        · by_cases hn : first? qs p.2.identity = none
          · rw [if_pos hn, List.mem_singleton] at hq
            rw [hq, if_pos rfl]
          · rw [if_neg hn] at hq
            cases hq
      · intro hp
        by_cases hi : p.2.identity = q.2.identity
        · rw [if_pos hi, Option.some.injEq] at hp
          rw [hp, h, if_pos rfl]
          exact Or.inr List.mem_cons_self
        · rw [if_neg hi] at hp
          cases hp

theorem first?_filter {keep : Request P → Bool}
    (hk : ∀ p q : Request P, p.2.identity = q.2.identity → keep p = keep q) (qs : List (Request P))
    {q : Request P} (hq : keep q = true) :
    first? (qs.filter keep) q.2.identity = first? qs q.2.identity := by
  unfold first?
  rw [List.find?_filter]
  congr 1
  funext p
  by_cases h : p.2.identity = q.2.identity
  · simp [h, hk p q h, hq]
  · simp [h]

theorem firsts_filter {keep : Request P → Bool}
    (hk : ∀ p q : Request P, p.2.identity = q.2.identity → keep p = keep q)
    (qs : List (Request P)) :
    firsts (qs.filter keep) = (firsts qs).filter keep := by
  induction qs using List.reverseRecOn with
  | nil => rfl
  | append_singleton qs q ih =>
    rw [List.filter_append, firsts_append_singleton, List.filter_append, ← ih]
    by_cases hq : keep q = true
    · have hs : [q].filter keep = [q] := List.filter_eq_self.2 (by simpa using hq)
      rw [hs, firsts_append_singleton, first?_filter hk qs hq]
      congr 1
      by_cases hn : first? qs q.2.identity = none
      · rw [if_pos hn, hs]
      · rw [if_neg hn, List.filter_nil]
    · by_cases hn : first? qs q.2.identity = none <;> simp [hq, hn]

theorem countP_firsts (qs : List (Request P)) (id : Identity) :
    (firsts qs).countP (fun q => decide (q.2.identity = id)) =
      if first? qs id = none then 0 else 1 := by
  induction qs using List.reverseRecOn with
  | nil => simp [firsts, first?]
  | append_singleton qs q ih =>
    rw [firsts_append_singleton, first?_append_singleton, List.countP_append, ih]
    by_cases hi : q.2.identity = id
    · subst hi
      cases first? qs q.2.identity <;> simp
    · rw [if_neg hi, Option.or_none]
      by_cases hn : first? qs q.2.identity = none <;> simp [hi, hn]

end Request

end Splice
