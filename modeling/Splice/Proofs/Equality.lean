import Splice.Proofs.Inlining

namespace Splice

variable {P : Type}

/-- A comparison that is an equivalence apart from what `holdsNaN`, which is not equal to itself. -/
structure PartialEquality {α : Type} (equals : α → α → Bool) (holdsNaN : α → Bool) : Prop where
  symm : ∀ x y, equals x y = true → equals y x = true
  trans : ∀ x y z, equals x y = true → equals y z = true → equals x z = true
  self_iff : ∀ x, equals x x = true ↔ holdsNaN x = false

namespace PartialEquality

variable {α β : Type} {equals equals' : α → α → Bool} {holdsNaN holdsNaN' : α → Bool}

theorem of_beq [BEq α] [LawfulBEq α] : PartialEquality (fun x y : α => x == y) fun _ => false := by
  refine ⟨fun x y h => ?_, fun x y z h h' => ?_, fun x => ?_⟩
  · rw [eq_of_beq h]
    exact beq_self_eq_true y
  · rwa [eq_of_beq h]
  · simp

theorem of_iff {f : α → β} (h : ∀ x y, equals x y = true ↔ holdsNaN x = false ∧ f x = f y)
    (hf : ∀ x y, f x = f y → holdsNaN x = holdsNaN y) : PartialEquality equals holdsNaN := by
  refine ⟨fun x y hxy => ?_, fun x y z hxy hyz => ?_, fun x => ?_⟩
  · rw [h] at hxy ⊢
    exact ⟨by rw [← hf x y hxy.2, hxy.1], hxy.2.symm⟩
  · rw [h] at hxy hyz ⊢
    exact ⟨hxy.1, hxy.2.trans hyz.2⟩
  · rw [h]
    simp

theorem comap (h : PartialEquality equals holdsNaN) (f : β → α) :
    PartialEquality (fun x y => equals (f x) (f y)) fun x => holdsNaN (f x) :=
  ⟨fun x y => h.symm (f x) (f y), fun x y z => h.trans (f x) (f y) (f z), fun x => h.self_iff (f x)⟩

theorem and (h : PartialEquality equals holdsNaN) (h' : PartialEquality equals' holdsNaN') :
    PartialEquality (fun x y => equals x y && equals' x y) fun x => holdsNaN x || holdsNaN' x := by
  refine ⟨fun x y => ?_, fun x y z => ?_, fun x => ?_⟩
  · simp only [Bool.and_eq_true]
    exact fun hxy => ⟨h.symm x y hxy.1, h'.symm x y hxy.2⟩
  · simp only [Bool.and_eq_true]
    exact fun hxy hyz => ⟨h.trans x y z hxy.1 hyz.1, h'.trans x y z hxy.2 hyz.2⟩
  · rw [Bool.and_eq_true, h.self_iff, h'.self_iff, Bool.or_eq_false_iff]

theorem list (h : PartialEquality equals holdsNaN) :
    PartialEquality (fun xs ys : List α => xs.isEqv ys equals) fun xs => xs.any holdsNaN := by
  refine ⟨fun xs ys => ?_, fun xs ys zs => ?_, fun xs => ?_⟩
  · induction xs generalizing ys with
    | nil => cases ys <;> simp [List.isEqv]
    | cons x xs ih =>
      cases ys with
      | nil => exact id
      | cons y ys =>
        simp only [List.isEqv, Bool.and_eq_true]
        exact fun hxy => ⟨h.symm x y hxy.1, ih ys hxy.2⟩
  · induction xs generalizing ys zs with
    | nil => cases ys <;> cases zs <;> simp [List.isEqv]
    | cons x xs ih =>
      cases ys with
      | nil => simp [List.isEqv]
      | cons y ys =>
        cases zs with
        | nil => simp [List.isEqv]
        | cons z zs =>
          simp only [List.isEqv, Bool.and_eq_true]
          exact fun hxy hyz => ⟨h.trans x y z hxy.1 hyz.1, ih ys zs hxy.2 hyz.2⟩
  · induction xs with
    | nil => simp [List.isEqv]
    | cons x xs ih =>
      rw [List.isEqv, Bool.and_eq_true, h.self_iff, ih, List.any_cons, Bool.or_eq_false_iff]

end PartialEquality

theorem Value.equals_iff (v w : Value P) :
    v.equals w = true ↔ v.isNaN = false ∧ v.identity = w.identity := by
  rw [← same_iff_identity_eq]
  cases v with
  | number x =>
    cases w with
    | number y => cases hx : x.isNaN <;> simp [equals, same, isNaN, Binary64.equals, hx]
    | _ => simp [equals, same]
  | _ => cases w <;> simp [equals, same, isNaN]

theorem Value.partialEquality : PartialEquality (@Value.equals P) Value.isNaN := by
  apply PartialEquality.of_iff equals_iff
  intro v w h
  rw [isNaN_eq_decide, isNaN_eq_decide, h]

namespace Slot

def holdsNaN : Slot P → Bool
  | .value v => v.isNaN
  | .item => false

/-- The identity of what a slot holds; an item holds nothing, not even the string that marks it. -/
def identity? : Slot P → Option Identity
  | .value v => some v.identity
  | .item => none

theorem equals_iff (r s : Slot P) :
    r.equals s = true ↔ r.holdsNaN = false ∧ r.identity? = s.identity? := by
  cases r with
  | value v =>
    cases s with
    | value w => simp [equals, holdsNaN, identity?, Value.equals_iff]
    | item => simp [equals, identity?]
  | item => cases s <;> simp [equals, holdsNaN, identity?]

theorem partialEquality : PartialEquality (@Slot.equals P) Slot.holdsNaN := by
  apply PartialEquality.of_iff equals_iff
  intro r s h
  cases r with
  | value v =>
    cases s with
    | value w => rw [holdsNaN, holdsNaN, Value.isNaN_eq_decide, Value.isNaN_eq_decide,
        Option.some.inj h]
    | item => cases h
  | item =>
    cases s with
    | value w => cases h
    | item => rfl

end Slot

namespace Template

def holdsNaN (t : Template P) : Bool := t.slots.any Slot.holdsNaN

theorem partialEquality : PartialEquality (@Template.equals P) Template.holdsNaN :=
  (PartialEquality.of_beq.comap literals).and (Slot.partialEquality.list.comap slots)

end Template

namespace Bindings

def holdsNaN (b : Bindings P) : Bool := b.toList.any fun e => e.2.isNaN

theorem partialEquality : PartialEquality (@Bindings.equals P) Bindings.holdsNaN :=
  ((PartialEquality.of_beq.comap Prod.fst).and
    (Value.partialEquality.comap Prod.snd)).list.comap toList

end Bindings

namespace Expansion

def holdsNaN (e : Expansion P) : Bool := e.bindings.holdsNaN

theorem partialEquality : PartialEquality (@Expansion.equals P) Expansion.holdsNaN :=
  (PartialEquality.of_beq.comap source).and (Bindings.partialEquality.comap bindings)

end Expansion

theorem Slot.holdsNaN_eq (s : Slot P) : s.holdsNaN = s.toValue.isNaN := by
  cases s <;> rfl

theorem Template.first?_requests_nan (c : Config) (driven : Bool) (t : Template P) :
    Request.first? (t.requests c driven) (.number .nan) = none ↔ t.holdsNaN = false := by
  have hid : ∀ v : Value P, v.identity = .number .nan → v.isInlinable = false := by
    intro v hv
    have hn : v.isNaN = true := by rw [Value.isNaN_eq_decide, decide_eq_true hv]
    cases v <;> simp_all [Value.isNaN, Value.isInlinable]
  simp only [first?_requests_of_not_isInlinable c driven t hid, holdsNaN, List.any_eq_false,
    Slot.holdsNaN_eq, Value.isNaN_eq_decide, decide_eq_true_eq, ne_eq]

/-- The passes of a run bring what is not a number from the slots to the bindings, whatever their
drivers are. -/
theorem Draft.holdsNaN_run (c : Config) (t : Template P) {driven : Bool}
    {passes : List (Option (Value P))} (hp : Uniform driven passes) :
    (run c t passes).finish.holdsNaN = (!passes.isEmpty && t.holdsNaN) := by
  -- all that is not a number is one argument, so its entries can be counted
  have hc := countP_run (c := c) (t := t) hp (.number .nan)
  rw [← funext Value.isNaN_eq_decide, Bindings.values, List.countP_map] at hc
  simp only [ne_eq, Template.first?_requests_nan] at hc
  have ha : (run c t passes).finish.holdsNaN = true ↔
      0 < (run c t passes).bindings.toList.countP (Value.isNaN ∘ Prod.snd) := by
    rw [List.countP_pos_iff, Expansion.holdsNaN, Bindings.holdsNaN, List.any_eq_true]
    rfl
  rw [Bool.eq_iff_iff, ha, hc]
  cases passes <;> cases t.holdsNaN <;> simp

theorem Draft.equals_self_run (c : Config) (t : Template P) {driven : Bool}
    {passes : List (Option (Value P))} (hp : Uniform driven passes) :
    (run c t passes).finish.equals (run c t passes).finish = true ↔
      passes = [] ∨ t.holdsNaN = false := by
  rw [Expansion.partialEquality.self_iff, holdsNaN_run c t hp]
  cases passes <;> simp

namespace Config

/-- Equality is symmetric and transitive at every level, and only what contains a value that is not
a number differs from itself. Two expansions of one template are therefore equal unless a slot that
they pass over holds such a value; the drivers have no part in it. -/
theorem expansions_equal_unless_nan :
    PartialEquality (@Value.equals P) Value.isNaN ∧
      PartialEquality (@Slot.equals P) Slot.holdsNaN ∧
      PartialEquality (@Template.equals P) Template.holdsNaN ∧
      PartialEquality (@Bindings.equals P) Bindings.holdsNaN ∧
      PartialEquality (@Expansion.equals P) Expansion.holdsNaN ∧
      ∀ (c : Config) (t : Template P),
        ((c.expand t).equals (c.expand t) = true ↔ t.holdsNaN = false) ∧
        (∀ (v : Value P) (vs : List (Value P)),
          (c.expandEach (v :: vs) t).equals (c.expandEach (v :: vs) t) = true ↔
            t.holdsNaN = false) ∧
        (c.expandEach [] t).equals (c.expandEach [] t) = true := by
  refine ⟨Value.partialEquality, Slot.partialEquality, Template.partialEquality,
    Bindings.partialEquality, Expansion.partialEquality, fun c t => ⟨?_, fun v vs => ?_, ?_⟩⟩
  · rw [expand_eq_run, Draft.equals_self_run c t uniform_none]
    simp
  · rw [expandEach_eq_run, Draft.equals_self_run c t (uniform_some (v :: vs))]
    simp
  · rw [expandEach_eq_run, Draft.equals_self_run c t (uniform_some [])]
    exact Or.inl rfl

example : (({} : Config).expandEach [.number .nan] (⟨[("", .item)], ""⟩ : Template)).equals
    (({} : Config).expandEach [.number .nan] ⟨[("", .item)], ""⟩) = true := by decide

end Config

end Splice
