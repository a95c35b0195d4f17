namespace Splice

/-- The magnitudes are numbered in increasing order: `0` is zero, `infinity` is infinity, and all
above it is not a number. -/
structure Binary64 where
  negative : Bool
  magnitude : Nat
  magnitude_lt : magnitude < 0x8000000000000000
  deriving DecidableEq

namespace Binary64

instance : Hashable Binary64 where
  hash x := mixHash (hash x.negative) (hash x.magnitude)

def infinity : Nat := 0x7FF0000000000000

def binade : Nat := 0x10000000000000

def zero : Binary64 := ⟨false, 0, by decide⟩

def nan : Binary64 := ⟨false, 0x7FF8000000000000, by decide⟩

def ofBits (bits : UInt64) : Binary64 where
  negative := decide (0x8000000000000000 ≤ bits.toNat)
  magnitude := bits.toNat % 0x8000000000000000
  magnitude_lt := Nat.mod_lt _ (by decide)

def toBits (x : Binary64) : UInt64 :=
  .ofNat ((if x.negative then 0x8000000000000000 else 0) + x.magnitude)

def isNaN (x : Binary64) : Bool := decide (infinity < x.magnitude)

def isInfinite (x : Binary64) : Bool := x.magnitude == infinity

def isFinite (x : Binary64) : Bool := decide (x.magnitude < infinity)

def isZero (x : Binary64) : Bool := x.magnitude == 0

/-- Numeric equality: no number equals one that is not a number, and the two zeros are equal. -/
def equals (x y : Binary64) : Bool :=
  !x.isNaN && (decide (x = y) || (x.isZero && y.isZero))

/-- One representative for all that are not numbers, one for both zeros. -/
def canonical (x : Binary64) : Binary64 :=
  if x.isNaN then nan else if x.isZero then zero else x

/-- The value of a finite magnitude, in units of `2 ^ -1074`. -/
def units (magnitude : Nat) : Nat :=
  if magnitude < binade then magnitude
  else (binade + magnitude % binade) <<< (magnitude / binade - 1)

def unitsPerOne : Nat := 1 <<< 1074

def roundHalfEven (num den : Nat) : Nat :=
  if 2 * (num % den) < den ∨ (2 * (num % den) = den ∧ num / den % 2 = 0) then num / den
  else num / den + 1

/-- How far the spacing at `n` units is doubled: below `2 ^ 53` units it is one unit. -/
def spacing (n : Nat) : Nat := n.log2 - 52

/-- The magnitude nearest to `num / den` units, a half going to the even one. -/
def nearest (num den : Nat) : Nat :=
  min infinity
    (spacing (num / den) * binade + roundHalfEven num (den <<< spacing (num / den)))

theorem nearest_le_infinity (num den : Nat) : nearest num den ≤ infinity :=
  Nat.min_le_left _ _

theorem nearest_lt (num den : Nat) : nearest num den < 0x8000000000000000 :=
  Nat.lt_of_le_of_lt (nearest_le_infinity num den) (by decide)

def ofFraction (num den : Nat) : Nat := nearest (num * unitsPerOne) den

def ofInt (n : Int) : Binary64 where
  negative := decide (n < 0)
  magnitude := ofFraction n.natAbs 1
  magnitude_lt := nearest_lt _ _

/-- The number with the value of a single-precision number, whose least positive one is
`2 ^ 925` units. -/
def ofSingle (bits : UInt32) : Binary64 :=
  let negative := decide (0x80000000 ≤ bits.toNat)
  let magnitude := bits.toNat % 0x80000000
  if 0x7F800000 < magnitude then nan
  else if magnitude = 0x7F800000 then ⟨negative, infinity, by decide⟩
  else
    let step := 0x800000
    let count :=
      if magnitude < step then magnitude
      else (step + magnitude % step) <<< (magnitude / step - 1)
    ⟨negative, nearest (count <<< 925) 1, nearest_lt _ _⟩

def signedUnits (x : Binary64) : Int :=
  if x.negative then -(units x.magnitude : Int) else units x.magnitude

/-- The sum, rounded to the nearest number; a sum of zero is negative only when both terms are. -/
def add (x y : Binary64) : Binary64 :=
  if x.isNaN || y.isNaN then nan
  else if x.isInfinite then
    if y.isInfinite && x.negative != y.negative then nan else x
  else if y.isInfinite then y
  else
    let sum := x.signedUnits + y.signedUnits
    let negative := if sum = 0 then x.negative && y.negative else decide (sum < 0)
    ⟨negative, nearest sum.natAbs 1, nearest_lt _ _⟩

end Binary64

end Splice
