import Splice.Decimal

namespace Splice

structure NumberStyle where
  tie : Tie
  /-- The least nonzero magnitude that is written without an exponent. -/
  plainFrom : Nat
  /-- The least magnitude above it that is written with one. -/
  plainBelow : Nat
  fraction : Bool
  exponentPlus : Bool
  signedZero : Bool
  notANumber : String
  infinite : String

namespace NumberStyle

/-- The decimal with digits `ds`, the last of them at `10 ^ exponent`, written without an
exponent. -/
def plainText (fraction : Bool) (ds : List Char) (exponent : Int) : List Char :=
  let point := ds.length + exponent
  if 0 ≤ exponent then
    ds ++ List.replicate exponent.toNat '0' ++ (if fraction then ['.', '0'] else [])
  else if 0 < point then ds.take point.toNat ++ '.' :: ds.drop point.toNat
  else '0' :: '.' :: (List.replicate (-point).toNat '0' ++ ds)

def exponentText (plus : Bool) (ds : List Char) (exponent : Int) : List Char :=
  let power := ds.length + exponent - 1
  let mantissa := if ds.length ≤ 1 then ds else ds.take 1 ++ '.' :: ds.drop 1
  let sign := if power < 0 then ['-'] else if plus then ['+'] else []
  mantissa ++ 'e' :: (sign ++ Nat.toDigits 10 power.natAbs)

def magnitudeText (style : NumberStyle) (magnitude : Nat) : List Char :=
  let decimal := Decimal.shortest style.tie magnitude
  let ds := Nat.toDigits 10 decimal.digits
  if style.plainFrom ≤ magnitude ∧ magnitude < style.plainBelow then
    plainText style.fraction ds decimal.exponent
  else exponentText style.exponentPlus ds decimal.exponent

def signText (negative : Bool) : List Char := if negative then ['-'] else []

def chars (style : NumberStyle) (x : Binary64) : List Char :=
  if x.isNaN then style.notANumber.toList
  else if x.isInfinite then signText x.negative ++ style.infinite.toList
  else if x.isZero then
    signText (style.signedZero && x.negative) ++ plainText style.fraction ['0'] 0
  else signText x.negative ++ style.magnitudeText x.magnitude

def render (style : NumberStyle) (x : Binary64) : String := .ofList (style.chars x)

/-- Numbers in generated source: plain from `1e-6` up to `1e21`, whole numbers without a
fraction, both zeros as `0`. -/
def source : NumberStyle where
  tie := .larger
  plainFrom := Binary64.ofFraction 1 1000000
  plainBelow := Binary64.ofFraction 1000000000000000000000 1
  fraction := false
  exponentPlus := true
  signedZero := false
  notANumber := "NaN"
  infinite := "Infinity"

end NumberStyle

def Binary64.text (x : Binary64) : String := NumberStyle.source.render x

end Splice
