import Splice.Binary64

namespace Splice

/-- The decimal `digits * 10 ^ exponent`. -/
structure Decimal where
  digits : Nat
  exponent : Int
  deriving DecidableEq

inductive Tie where
  | larger
  | even
  deriving DecidableEq

namespace Decimal

open Binary64 (units nearest)

/-- The last places in one unit, so that `10 ^ 1074` of them make one. -/
def placesPerUnit : Nat := Nat.pow 5 1074

def places (magnitude : Nat) : Nat := units magnitude * placesPerUnit

/-- `digits * 10 ^ place` last places are nearer to `magnitude` than to any other. -/
def readsBack (magnitude place digits : Nat) : Bool :=
  nearest (digits * Nat.pow 10 place) placesPerUnit == magnitude

/-- Whether the neighbour below is taken, `rest` above it on a grid of spacing `step`. -/
def takesBelow (tie : Tie) (below rest step : Nat) : Bool :=
  match tie with
  | .larger => decide (2 * rest < step)
  | .even => decide (2 * rest < step ∨ (2 * rest = step ∧ below % 2 = 0))

def neighbour? (below : Nat) (belowReads aboveReads prefersBelow : Bool) : Option Nat :=
  match belowReads, aboveReads with
  | true, true => some (if prefersBelow then below else below + 1)
  | true, false => some below
  | false, true => some (below + 1)
  | false, false => none

/-- The multiple of `10 ^ place` last places that stands for `magnitude`, if one reads back. -/
def candidate? (tie : Tie) (magnitude place : Nat) : Option Nat :=
  let step := Nat.pow 10 place
  let below := places magnitude / step
  neighbour? below (readsBack magnitude place below) (readsBack magnitude place (below + 1))
    (takesBelow tie below (places magnitude % step) step)

/-- The first hit from `place` downward, with its place; `last` stands at the last place. -/
def search (hit? : Nat → Option Nat) (last : Nat) : Nat → Nat × Nat
  | 0 => (last, 0)
  | place + 1 =>
    match hit? (place + 1) with
    | some digits => (digits, place + 1)
    | none => search hit? last place

def leadingPlace (n : Nat) : Nat := (Nat.toDigits 10 n).length - 1

def trim (digits : Nat) (exponent : Int) : Decimal :=
  if digits ≠ 0 ∧ digits % 10 = 0 then trim (digits / 10) (exponent + 1)
  else ⟨digits, exponent⟩
termination_by digits
decreasing_by omega

/-- The shortest decimal that reads back as the positive finite `magnitude`, and the closest of
these; at the last place the value is exact. -/
def shortest (tie : Tie) (magnitude : Nat) : Decimal :=
  let value := places magnitude
  let found := search (candidate? tie magnitude) value (leadingPlace value)
  trim found.1 (found.2 - 1074)

end Decimal

end Splice
