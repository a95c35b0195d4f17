import Mathlib.Algebra.Order.Field.Rat
import Mathlib.Tactic.FieldSimp
import Mathlib.Tactic.Ring
import Splice.Text.Numeral

namespace Splice

theorem takeWhile_isDigit_append {digits rest : List Char} (hd : ∀ d ∈ digits, d.isDigit = true)
    (hr : rest.head?.any Char.isDigit = false) :
    (digits ++ rest).takeWhile Char.isDigit = digits := by
  rw [List.takeWhile_append_of_pos hd]
  cases rest with
  | nil => simp
  | cons c rest => simp_all

namespace Numeral

open NumberStyle (signText)

structure IsDigits (ds : List Char) : Prop where
  ne_nil : ds ≠ []
  isDigit : ∀ d ∈ ds, d.isDigit = true

/-- Every part consists of digits, and the whole part has no zero before other digits. -/
structure WellFormed (n : Numeral) : Prop where
  whole : IsDigits n.whole
  leading : n.whole.length = 1 ∨ n.whole.head? ≠ some '0'
  fraction : ∀ ds, n.fraction = some ds → IsDigits ds
  power : ∀ p, n.power = some p → IsDigits p.2

def fractionChars : Option (List Char) → List Char
  | none => []
  | some ds => '.' :: ds

def powerChars : Option (Bool × List Char) → List Char
  | none => []
  | some (negative, ds) => 'e' :: (if negative then '-' else '+') :: ds

/-- The text of a numeral; a power has its sign in any case. -/
def chars (n : Numeral) : List Char :=
  signText n.negative ++ (n.whole ++ (fractionChars n.fraction ++ powerChars n.power))

def signFactor (negative : Bool) : ℚ := if negative then -1 else 1

def toRat (n : Numeral) : ℚ :=
  signFactor n.negative *
    (value n.whole + value (n.fraction.getD []) / 10 ^ (n.fraction.getD []).length) *
    10 ^ n.powerValue

theorem IsDigits.head?_ne {ds : List Char} (hd : IsDigits ds) {c : Char} (hc : c.isDigit = false)
    (rest : List Char) : (ds ++ rest).head? ≠ some c := by
  obtain ⟨hn, hd⟩ := hd
  cases ds with
  | nil => exact absurd rfl hn
  | cons d ds =>
    rintro ⟨rfl⟩
    simp_all

theorem readSign_append (negative : Bool) {s : List Char} (hs : s.head? ≠ some '-') :
    readSign (signText negative ++ s) = (negative, s) := by
  cases negative with
  | true => rfl
  | false =>
    unfold readSign
    split <;> simp_all [signText]

theorem readDigits?_append {ds rest : List Char} (hd : IsDigits ds)
    (hr : rest.head?.any Char.isDigit = false) : readDigits? (ds ++ rest) = some (ds, rest) := by
  have hs : (ds ++ rest).dropWhile Char.isDigit = rest := by
    rw [List.dropWhile_append_of_pos hd.isDigit]
    cases rest <;> simp_all
  rw [readDigits?, takeWhile_isDigit_append hd.isDigit hr, hs, if_neg hd.ne_nil]

theorem readWhole?_append {ds rest : List Char} (hd : IsDigits ds)
    (hl : ds.length = 1 ∨ ds.head? ≠ some '0') (hr : rest.head?.any Char.isDigit = false) :
    readWhole? (ds ++ rest) = some (ds, rest) := by
  rw [readWhole?, readDigits?_append hd hr]
  simpa using hl

theorem readFraction?_append {f : Option (List Char)} {rest : List Char}
    (hf : ∀ ds, f = some ds → IsDigits ds) (hr : rest.head?.any Char.isDigit = false)
    (hp : rest.head? ≠ some '.') : readFraction? (fractionChars f ++ rest) = some (f, rest) := by
  cases f with
  | none =>
    unfold readFraction?
    split <;> simp_all [fractionChars]
  | some ds => simp [fractionChars, readFraction?, readDigits?_append (hf ds rfl) hr]

theorem readPower?_append {p : Option (Bool × List Char)} {rest : List Char}
    (hp : ∀ q, p = some q → IsDigits q.2) (hr : rest.head?.any Char.isDigit = false)
    (he : rest.head? ≠ some 'e') (hE : rest.head? ≠ some 'E') :
    readPower? (powerChars p ++ rest) = some (p, rest) := by
  cases p with
  | none =>
    unfold readPower?
    split <;> simp_all [powerChars]
  | some q =>
    obtain ⟨negative, ds⟩ := q
    have hd := readDigits?_append (hp _ rfl) hr
    cases negative <;> simp [powerChars, readPower?, readPowerSign, hd]

/-- What follows a numeral does not go on with it. -/
def Ends (rest : List Char) : Prop :=
  ∀ c, rest.head? = some c → c.isDigit = false ∧ c ≠ '.' ∧ c ≠ 'e' ∧ c ≠ 'E'

theorem ends_nil : Ends [] := fun _ h => by cases h

theorem Ends.not_digit {rest : List Char} (h : Ends rest) :
    rest.head?.any Char.isDigit = false := by
  cases rest with
  | nil => rfl
  | cons c rest => exact (h c rfl).1

theorem head?_powerChars (p : Option (Bool × List Char)) {rest : List Char} (h : Ends rest) :
    (powerChars p ++ rest).head?.any Char.isDigit = false ∧
      (powerChars p ++ rest).head? ≠ some '.' := by
  cases p with
  | none => exact ⟨h.not_digit, fun hc => (h _ hc).2.1 rfl⟩
  | some q => exact ⟨rfl, by simp [powerChars]⟩

theorem head?_fractionChars (f : Option (List Char)) {rest : List Char}
    (h : rest.head?.any Char.isDigit = false) :
    (fractionChars f ++ rest).head?.any Char.isDigit = false := by
  cases f with
  | none => exact h
  | some ds => rfl

theorem read?_append {n : Numeral} (h : n.WellFormed) {rest : List Char} (hr : Ends rest) :
    read? (n.chars ++ rest) = some (n, rest) := by
  obtain ⟨hd, hp⟩ := head?_powerChars n.power hr
  have hs := readSign_append n.negative (h.whole.head?_ne (c := '-') (by decide)
    (fractionChars n.fraction ++ (powerChars n.power ++ rest)))
  have hw := readWhole?_append h.whole h.leading (head?_fractionChars n.fraction hd)
  have hf := readFraction?_append h.fraction hd hp
  have he := readPower?_append h.power hr.not_digit (fun hc => (hr _ hc).2.2.1 rfl)
    (fun hc => (hr _ hc).2.2.2 rfl)
  simp [read?, chars, List.append_assoc, hs, hw, hf, he]

theorem value_append (a b : List Char) : value (a ++ b) = value a * 10 ^ b.length + value b := by
  rw [value, Nat.ofDigitChars_append, Nat.ofDigitChars_eq_ofDigitChars_zero, Nat.mul_comm]
  rfl

theorem toRat_eq {n : Numeral} {digits : Nat} {exponent : Int}
    (hd : value (n.whole ++ n.fraction.getD []) = digits)
    (he : n.powerValue - (n.fraction.getD []).length = exponent) :
    n.toRat = signFactor n.negative * digits * 10 ^ exponent := by
  have h10 : (10 : ℚ) ≠ 0 := by norm_num
  rw [toRat, ← hd, ← he, value_append, zpow_sub₀ h10, zpow_natCast]
  push_cast
  field_simp

theorem isDigits_toDigits (n : Nat) : IsDigits (Nat.toDigits 10 n) :=
  ⟨Nat.toDigits_ne_nil, fun _ => Nat.isDigit_of_mem_toDigits (by decide) (by decide)⟩

theorem head?_toDigits {n : Nat} (hn : n ≠ 0) : (Nat.toDigits 10 n).head? ≠ some '0' := by
  induction n using Nat.strongRecOn with
  | ind n ih =>
    rw [Nat.toDigits_eq_if (by decide)]
    split
    · simpa using hn
    · rw [List.head?_append_of_ne_nil _ Nat.toDigits_ne_nil]
      exact ih (n / 10) (by omega) (by omega)

theorem isDigit_of_mem_replicate {n : Nat} {c : Char} (h : c ∈ List.replicate n '0') :
    c.isDigit = true := by
  rw [List.eq_of_mem_replicate h]
  rfl

theorem value_zeros (n : Nat) : value (List.replicate n '0') = 0 := by
  simp [value]

theorem value_toDigits (n : Nat) : value (Nat.toDigits 10 n) = n := by
  rw [value, Nat.ofDigitChars_ten_toDigits]

end Numeral

end Splice
