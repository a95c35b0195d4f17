import Splice.Proofs.Numeral
import Splice.Proofs.Spacing

namespace Splice

section

variable {α β : Type}

/-- Nothing is read, or all of the text. -/
def Stops (o : Option (α × List Char)) : Prop := ∀ x, o = some x → x.2 = []

/-- What is read of a whole text is also read of a first part of it that holds all of it. -/
def Prompt (f : List Char → Option (α × List Char)) : Prop :=
  ∀ (p q : List Char) (x : α × List Char), f (p ++ q) = some x →
    (∃ p', x.2 = p' ++ q ∧ f p = some (x.1, p')) ∨ Stops (f p)

variable {f : List Char → Option (α × List Char)}

theorem stops_none : Stops (none : Option (α × List Char)) := fun _ h => by cases h

theorem stops_some (a : α) : Stops (some (a, [])) := fun _ h => by cases h; rfl

theorem prompt_some (a : α) : Prompt fun s => some (a, s) := by
  rintro p q x ⟨⟩
  exact .inl ⟨p, rfl, rfl⟩

theorem Prompt.map (h : Prompt f) (g : α → β) :
    Prompt fun s => (f s).map fun x => (g x.1, x.2) := by
  intro p q y hy
  obtain ⟨x, hx, rfl⟩ := Option.map_eq_some_iff.1 hy
  rcases h p q x hx with ⟨p', hr, hp⟩ | hs
  · exact .inl ⟨p', hr, by simp [hp]⟩
  · right
    intro z hz
    obtain ⟨x', hx', rfl⟩ := Option.map_eq_some_iff.1 hz
    exact hs x' hx'

theorem Prompt.filter (h : Prompt f) (keep : α → Bool) :
    Prompt fun s => (f s).filter fun x => keep x.1 := by
  intro p q x hx
  obtain ⟨hx, hk⟩ := Option.filter_eq_some_iff.1 hx
  rcases h p q x hx with ⟨p', hr, hp⟩ | hs
  · exact .inl ⟨p', hr, Option.filter_eq_some_iff.2 ⟨hp, hk⟩⟩
  · exact .inr fun z hz => hs z (Option.filter_eq_some_iff.1 hz).1

theorem Prompt.bind (h : Prompt f) {g : α → List Char → Option (β × List Char)}
    (hg : ∀ a, Prompt (g a)) (hn : ∀ a, Stops (g a [])) :
    Prompt fun s => (f s).bind fun x => g x.1 x.2 := by
  intro p q y hy
  obtain ⟨x, hx, hy⟩ := Option.bind_eq_some_iff.1 hy
  rcases h p q x hx with ⟨p', hr, hp⟩ | hs
  · rw [hr] at hy
    simpa [hp] using hg x.1 p' q y hy
  · right
    intro z hz
    obtain ⟨x', hx', hz⟩ := Option.bind_eq_some_iff.1 hz
    rw [hs x' hx'] at hz
    exact hn x'.1 z hz

theorem Prompt.cons (h : Prompt f) (c : Char) : Prompt fun s => f (c :: s) :=
  fun p q x hx => h (c :: p) q x hx

theorem Prompt.of_cons (hn : Stops (f [])) (h : ∀ c, Prompt fun s => f (c :: s)) : Prompt f := by
  intro p q x hx
  cases p with
  | nil => exact .inr hn
  | cons c p => exact h c p q x hx

end

namespace Numeral

theorem prompt_readDigits? : Prompt readDigits? := by
  intro p q x hx
  by_cases hd : p.dropWhile Char.isDigit = []
  · right
    intro z hz
    simp only [readDigits?, Option.ite_none_left_eq_some, Option.some.injEq] at hz
    rw [← hz.2]
    exact hd
  · have hl : (p.takeWhile Char.isDigit).length ≠ p.length := by
      intro hl
      have ha := congrArg List.length (List.takeWhile_append_dropWhile (p := Char.isDigit) (l := p))
      rw [List.length_append, hl] at ha
      exact hd (List.length_eq_zero_iff.1 (by omega))
    have ht : (p ++ q).takeWhile Char.isDigit = p.takeWhile Char.isDigit := by
      rw [List.takeWhile_append, if_neg hl]
    have hr : (p ++ q).dropWhile Char.isDigit = p.dropWhile Char.isDigit ++ q := by
      rw [List.dropWhile_append, if_neg (by simpa using hd)]
    rw [readDigits?, ht, hr, Option.ite_none_left_eq_some, Option.some.injEq] at hx
    obtain ⟨hn, rfl⟩ := hx
    exact .inl ⟨p.dropWhile Char.isDigit, rfl, by rw [readDigits?, if_neg hn]⟩

theorem prompt_readWhole? : Prompt readWhole? :=
  prompt_readDigits?.filter fun ds => ds.length = 1 || ds.head? != some '0'

theorem prompt_readFraction? : Prompt readFraction? := by
  refine Prompt.of_cons (stops_some none) fun c => ?_
  by_cases hc : c = '.'
  · subst hc
    exact prompt_readDigits?.map some
  · have hf : (fun s => readFraction? (c :: s)) = fun s => some (none, c :: s) := by
      funext s
      unfold readFraction?
      split <;> simp_all
    rw [hf]
    exact (prompt_some none).cons c

theorem prompt_readPowerDigits :
    Prompt fun s => (readDigits? (readPowerSign s).2).map fun x =>
      (some ((readPowerSign s).1, x.1), x.2) := by
  refine Prompt.of_cons stops_none fun c => ?_
  have hd (negative : Bool) := prompt_readDigits?.map fun ds => some (negative, ds)
  by_cases hm : c = '-'
  · subst hm
    exact hd true
  by_cases hp : c = '+'
  · subst hp
    exact hd false
  have hf : ∀ s, readPowerSign (c :: s) = (false, c :: s) := by
    intro s
    unfold readPowerSign
    split <;> simp_all
  simp only [hf]
  exact (hd false).cons c

theorem prompt_readPower? : Prompt readPower? := by
  refine Prompt.of_cons (stops_some none) fun c => ?_
  by_cases hc : c = 'e'
  · subst hc
    exact prompt_readPowerDigits
  by_cases hC : c = 'E'
  · subst hC
    exact prompt_readPowerDigits
  have hf : (fun s => readPower? (c :: s)) = fun s => some (none, c :: s) := by
    funext s
    unfold readPower?
    split <;> simp_all
  rw [hf]
  exact (prompt_some none).cons c

def readUnsigned? (negative : Bool) (s : List Char) : Option (Numeral × List Char) :=
  (readWhole? s).bind fun x => (readFraction? x.2).bind fun y => (readPower? y.2).bind fun z =>
    some (⟨negative, x.1, y.1, z.1⟩, z.2)

theorem head_of_read? {c : Char} {s : List Char} {x : Numeral × List Char}
    (h : read? (c :: s) = some x) : c = '-' ∨ c.isDigit = true := by
  by_contra hc
  obtain ⟨hm, hd⟩ := not_or.1 hc
  have hs : readSign (c :: s) = (false, c :: s) := readSign_append false (by simpa using hm)
  simp [read?, hs, readWhole?, readDigits?, hd] at h

theorem read?_eq (s : List Char) : read? s = readUnsigned? (readSign s).1 (readSign s).2 := rfl

theorem prompt_readUnsigned? (negative : Bool) : Prompt (readUnsigned? negative) := by
  have hp (whole : List Char) (fraction : Option (List Char)) :
      Prompt fun s => (readPower? s).bind fun z =>
        some (Numeral.mk negative whole fraction z.1, z.2) :=
    prompt_readPower?.bind (g := fun power s => some (Numeral.mk negative whole fraction power, s))
      (fun power => prompt_some _) fun power => stops_some _
  have hf (whole : List Char) := prompt_readFraction?.bind (hp whole) fun fraction => stops_some _
  exact prompt_readWhole?.bind hf fun whole => stops_some _

theorem prompt_read? : Prompt read? := by
  refine Prompt.of_cons stops_none fun c => ?_
  by_cases hc : c = '-'
  · subst hc
    exact prompt_readUnsigned? true
  · have hf (s : List Char) : readSign (c :: s) = (false, c :: s) :=
      readSign_append false (by simpa using hc)
    simp only [read?_eq, hf]
    exact (prompt_readUnsigned? false).cons c

end Numeral

theorem Quoted.pieces?_append {p r : List Char} {ps : List Piece} (h : pieces? p = some (ps, r))
    (q : List Char) : pieces? (p ++ q) = some (ps, r ++ q) := by
  fun_induction pieces? p generalizing ps with
  | case1 | case4 | case6 | case7 | case9 => simp at h
  | case2 rest =>
    cases h
    rw [List.cons_append, pieces?]
  | case3 a b c d s n qs _ hp hu ih =>
    cases h
    simp [pieces?, hu, ih hp]
  | case5 e s _ c qs _ hp he ih =>
    cases h
    have hu : e ≠ 'u' := by
      rintro rfl
      cases he
    simp [pieces?, he, ih hp, hu]
  | case8 c s _ _ _ hc qs _ hp ih =>
    cases h
    rw [List.cons_append, pieces?]
    · simp [hc, ih hp]
    all_goals simp_all

namespace Token

theorem read?_eq_numeral {c : Char} (hc : c = '-' ∨ c.isDigit = true) (s : List Char) :
    read? (c :: s) = (Numeral.read? (c :: s)).map fun x => (.number x.1, x.2) := by
  unfold read?
  split
  case h_11 => rfl
  all_goals simp_all

theorem numeral_of_read? {s r : List Char} {n : Numeral} (h : read? s = some (.number n, r)) :
    Numeral.read? s = some (n, r) := by
  unfold read? at h
  split at h
  case h_11 =>
    obtain ⟨x, hx, he⟩ := Option.map_eq_some_iff.1 h
    cases he
    exact hx
  all_goals simp at h

theorem read?_append {p r : List Char} {t : Token} (h : read? p = some (t, r))
    (ht : ∀ n, t ≠ .number n) (q : List Char) : read? (p ++ q) = some (t, r ++ q) := by
  unfold read? at h
  split at h
  case h_10 s =>
    obtain ⟨⟨ps, r'⟩, hp, he⟩ := Option.map_eq_some_iff.1 h
    cases he
    rw [List.cons_append, read?, Quoted.pieces?_append hp, Option.map_some]
  case h_11 =>
    obtain ⟨⟨n, r'⟩, hn, he⟩ := Option.map_eq_some_iff.1 h
    cases he
    exact absurd rfl (ht n)
  all_goals
    cases h
    rfl

/-- A token is read before the cut, or nothing is, or a number is read up to the cut. -/
theorem read?_cut {p q rest : List Char} {t : Token} (h : read? (p ++ q) = some (t, rest)) :
    (∃ p', rest = p' ++ q ∧ read? p = some (t, p')) ∨ read? p = none ∨
      ∃ m n, t = .number n ∧ read? p = some (.number m, []) := by
  cases hp : read? p with
  | none => exact .inr (.inl rfl)
  | some u =>
    obtain ⟨u, r⟩ := u
    by_cases hu : ∀ m, u ≠ .number m
    · rw [read?_append hp hu, Option.some.injEq, Prod.mk.injEq] at h
      obtain ⟨rfl, rfl⟩ := h
      exact .inl ⟨r, rfl, rfl⟩
    · obtain ⟨m, rfl⟩ := not_forall_not.1 hu
      have hm := numeral_of_read? hp
      cases p with
      | nil => cases hm
      | cons c p =>
        rw [List.cons_append, read?_eq_numeral (Numeral.head_of_read? hm)] at h
        obtain ⟨⟨n, rest⟩, hn, he⟩ := Option.map_eq_some_iff.1 h
        cases he
        rcases Numeral.prompt_read? (c :: p) q (n, rest) hn with ⟨p', hr, hc⟩ | hs
        · refine .inl ⟨p', hr, ?_⟩
          rw [read?_of_numeral hc] at hp
          rw [← hp]
        · obtain rfl : r = [] := hs (m, r) hm
          exact .inr (.inr ⟨m, n, rfl, rfl⟩)

/-- The tokens of a text and those of a first part of it that stops before a token is complete. The
last one may be cut short, which shows unless it is a number. -/
inductive Cut : List Token → List Token → Prop where
  | before (t : Token) (ts : List Token) : Cut (t :: ts) []
  | within (t : Token) (ts : List Token) : Cut (t :: ts) [.malformed]
  | number (m n : Numeral) (ts : List Token) : Cut (.number n :: ts) [.number m]
  | after (t : Token) {ts us : List Token} (h : Cut ts us) : Cut (t :: ts) (t :: us)

theorem ofText_of_read?_eq_none {c : Char} {s : List Char} (hc : isBlank c = false)
    (h : read? (c :: s) = none) : ofText (c :: s) = [.malformed] := by
  rw [ofText, if_neg (by simp [hc])]
  split
  · rfl
  · next hs =>
    rw [h] at hs
    cases hs

theorem ofText_ne_nil {s : List Char} (h : ∃ c ∈ s, isBlank c = false) : ofText s ≠ [] := by
  obtain ⟨c, hc, hb⟩ := h
  induction s with
  | nil => cases hc
  | cons d s ih =>
    rw [ofText]
    by_cases hd : isBlank d = true
    · rw [if_pos hd]
      rcases List.mem_cons.1 hc with rfl | hc
      · rw [hb] at hd
        cases hd
      · exact ih hc
    · rw [if_neg hd]
      split <;> exact List.cons_ne_nil _ _

theorem cut_ofText {p q : List Char} (hq : ∃ c ∈ q, isBlank c = false)
    (hm : .malformed ∉ ofText (p ++ q)) : Cut (ofText (p ++ q)) (ofText p) := by
  -- on the length, since a token takes more than one character
  induction hl : p.length using Nat.strongRecOn generalizing p with
  | ind l ih =>
    cases p with
    | nil =>
      obtain ⟨t, ts, ht⟩ := List.exists_cons_of_ne_nil (ofText_ne_nil hq)
      rw [List.nil_append, ht, ofText]
      exact .before t ts
    | cons c p =>
      rw [List.cons_append] at hm ⊢
      by_cases hc : isBlank c = true
      · have hs (s : List Char) : ofText (c :: s) = ofText s := by rw [ofText, if_pos hc]
        rw [hs] at hm ⊢
        rw [hs]
        exact ih p.length (by simp [← hl]) hm rfl
      · have hc : isBlank c = false := by simpa using hc
        cases hr : read? (c :: (p ++ q)) with
        | none =>
          rw [ofText_of_read?_eq_none hc hr] at hm
          exact absurd List.mem_cons_self hm
        | some x =>
          obtain ⟨t, rest⟩ := x
          have ht := ofText_of_read? hr
          rw [ht] at hm ⊢
          rcases read?_cut (p := c :: p) hr with ⟨p', rfl, hp⟩ | hp | ⟨m, n, rfl, hp⟩
          · rw [ofText_of_read? hp]
            have hi : .malformed ∉ ofText (p' ++ q) := fun h => hm (List.mem_cons_of_mem t h)
            exact .after t (ih p'.length (hl ▸ read?_length hp) hi rfl)
          · rw [ofText_of_read?_eq_none hc hp]
            exact .within t _
          · rw [ofText_of_read? hp, ofText]
            exact .number m n _

end Token

end Splice
