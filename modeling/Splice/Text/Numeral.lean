import Splice.NumberStyle

namespace Splice

structure Numeral where
  negative : Bool
  whole : List Char
  fraction : Option (List Char)
  power : Option (Bool × List Char)
  deriving DecidableEq

namespace Numeral

open Binary64 (units nearest ofFraction unitsPerOne)

def readSign : List Char → Bool × List Char
  | '-' :: s => (true, s)
  | s => (false, s)

def readDigits? (s : List Char) : Option (List Char × List Char) :=
  if s.takeWhile Char.isDigit = [] then none
  else some (s.takeWhile Char.isDigit, s.dropWhile Char.isDigit)

def readWhole? (s : List Char) : Option (List Char × List Char) :=
  (readDigits? s).filter fun (ds, _) => ds.length = 1 || ds.head? != some '0'

def readFraction? : List Char → Option (Option (List Char) × List Char)
  | '.' :: s => (readDigits? s).map fun (ds, rest) => (some ds, rest)
  | s => some (none, s)

def readPowerSign : List Char → Bool × List Char
  | '-' :: s => (true, s)
  | '+' :: s => (false, s)
  | s => (false, s)

def readPower? : List Char → Option (Option (Bool × List Char) × List Char)
  | 'e' :: s | 'E' :: s =>
    (readDigits? (readPowerSign s).2).map fun (ds, rest) =>
      (some ((readPowerSign s).1, ds), rest)
  | s => some (none, s)

def read? (s : List Char) : Option (Numeral × List Char) := do
  let (whole, afterWhole) ← readWhole? (readSign s).2
  let (fraction, afterFraction) ← readFraction? afterWhole
  let (power, rest) ← readPower? afterFraction
  return (⟨(readSign s).1, whole, fraction, power⟩, rest)

def value (ds : List Char) : Nat := Nat.ofDigitChars 10 ds 0

/-- The integer that the numeral writes, if it has no fraction and no power and fits in 64 bits;
a negative zero does not count as one. -/
def integer? (n : Numeral) : Option Int :=
  let v := value n.whole
  if n.fraction.isSome || n.power.isSome then none
  else if n.negative then if 0 < v ∧ v ≤ 0x8000000000000000 then some (-v) else none
  else if v < 0x10000000000000000 then some v else none

/-- Appends digits to a number while it stays below `2 ^ 64`; the second part counts the digits
that are left out. -/
def absorb (n : Nat) : List Char → Nat × Nat
  | [] => (n, 0)
  | d :: ds =>
    let longer := 10 * n + value [d]
    if longer < 0x10000000000000000 then absorb longer ds else (n, ds.length + 1)

def powerValue (n : Numeral) : Int :=
  match n.power with
  | none => 0
  | some (true, ds) => -(value ds : Int)
  | some (false, ds) => value ds

def powerOfTen (k : Nat) : Nat := ofFraction (Nat.pow 10 k) 1

def times (magnitude k : Nat) : Nat :=
  nearest (units magnitude * units (powerOfTen k)) unitsPerOne

def dividedBy (magnitude k : Nat) : Nat :=
  nearest (units magnitude * unitsPerOne) (units (powerOfTen k))

def shrink (magnitude k : Nat) : Nat :=
  if k ≤ 308 then dividedBy magnitude k
  else if magnitude = 0 then 0
  else shrink (dividedBy magnitude 308) (k - 308)
termination_by k

def scale (magnitude : Nat) (power : Int) : Nat :=
  if power < 0 then shrink magnitude power.natAbs
  else if magnitude = 0 then 0
  else if 308 < power then Binary64.infinity
  else times magnitude power.toNat

def scientific (n : Numeral) : Nat × Int :=
  let fraction := n.fraction.getD []
  let whole := absorb 0 n.whole
  let all := absorb whole.1 fraction
  (all.1, whole.2 - (fraction.length - all.2) + n.powerValue)

/-- The value of the leading digits, found by one rounding for the digits and one for each power of
ten, unless it is out of range. -/
def float? (n : Numeral) : Option Binary64 :=
  let magnitude := scale (ofFraction n.scientific.1 1) n.scientific.2
  if h : magnitude < Binary64.infinity then
    some ⟨n.negative, magnitude, Nat.lt_trans h (by decide)⟩
  else none

theorem readSign_length (s : List Char) : (readSign s).2.length ≤ s.length := by
  unfold readSign
  split <;> simp

theorem readPowerSign_length (s : List Char) : (readPowerSign s).2.length ≤ s.length := by
  unfold readPowerSign
  split <;> simp

theorem readDigits?_length {s ds rest : List Char} (h : readDigits? s = some (ds, rest)) :
    rest.length < s.length := by
  have hs := congrArg List.length (List.takeWhile_append_dropWhile (p := Char.isDigit) (l := s))
  simp only [List.length_append] at hs
  simp only [readDigits?, Option.ite_none_left_eq_some, Option.some.injEq, Prod.mk.injEq] at h
  obtain ⟨hn, -, hr⟩ := h
  have := List.length_pos_iff.2 hn
  rw [hr] at hs
  omega

theorem readWhole?_length {s ds rest : List Char} (h : readWhole? s = some (ds, rest)) :
    rest.length < s.length :=
  readDigits?_length (Option.filter_eq_some_iff.1 h).1

theorem readFraction?_length {s rest : List Char} {ds : Option (List Char)}
    (h : readFraction? s = some (ds, rest)) : rest.length ≤ s.length := by
  unfold readFraction? at h
  split at h
  · obtain ⟨⟨_, _⟩, hd, he⟩ := Option.map_eq_some_iff.1 h
    have := readDigits?_length hd
    grind
  · simp_all

theorem readPower?_length {s rest : List Char} {p : Option (Bool × List Char)}
    (h : readPower? s = some (p, rest)) : rest.length ≤ s.length := by
  unfold readPower? at h
  split at h
  case h_3 => simp_all
  all_goals
    rename_i s
    obtain ⟨⟨ds, r⟩, hd, he⟩ := Option.map_eq_some_iff.1 h
    have := readDigits?_length hd
    have := readPowerSign_length s
    grind

theorem read?_length {s rest : List Char} {n : Numeral} (h : read? s = some (n, rest)) :
    rest.length < s.length := by
  simp only [read?, Option.bind_eq_bind, Option.bind_eq_some_iff, Prod.exists] at h
  obtain ⟨_, _, hw, _, _, hf, _, _, hp, he⟩ := h
  have := readSign_length s
  have := readWhole?_length hw
  have := readFraction?_length hf
  have := readPower?_length hp
  grind

end Numeral

end Splice
