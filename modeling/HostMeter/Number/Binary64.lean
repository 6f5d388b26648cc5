import HostMeter.Number.Limits
set_option autoImplicit false

/-! Double-precision numbers as words, with every operation carried out on exact ratios of natural
numbers and rounded once, to nearest and ties to even. -/

namespace HostMeter

structure Binary64 where
  bits : UInt64
  deriving DecidableEq, Repr, Inhabited

namespace Binary64

def signWeight : Nat := limit63
/-- The bit in front of the fraction, and the weight of the exponent field. -/
def hiddenBit : Nat := 4503599627370496
def infinityMagnitude : Nat := 2047*hiddenBit

def magnitude (x : Binary64) : Nat := x.bits.toNat % signWeight
def negative (x : Binary64) : Bool := decide (signWeight ≤ x.bits.toNat)
def isNaN (x : Binary64) : Bool := decide (infinityMagnitude < x.magnitude)
def isInfinite (x : Binary64) : Bool := decide (x.magnitude = infinityMagnitude)
def isFinite (x : Binary64) : Bool := decide (x.magnitude < infinityMagnitude)
def isZero (x : Binary64) : Bool := decide (x.magnitude = 0)

def field (x : Binary64) : Nat := x.magnitude/hiddenBit
def fraction (x : Binary64) : Nat := x.magnitude%hiddenBit

/-- A finite number is `significand·2^exponent` up to its sign. -/
def significand (x : Binary64) : Nat := if x.field = 0 then x.fraction else hiddenBit+x.fraction
def exponent (x : Binary64) : Int := (max x.field 1 : Nat)-1075

def ofMagnitude (neg : Bool) (m : Nat) : Binary64 :=
  ⟨UInt64.ofNat (if neg then signWeight+m else m)⟩

def zero (neg : Bool) : Binary64 := ofMagnitude neg 0
def infinity (neg : Bool) : Binary64 := ofMagnitude neg infinityMagnitude
def nan : Binary64 := ofMagnitude false (infinityMagnitude+hiddenBit/2)

def neg (x : Binary64) : Binary64 := ofMagnitude (!x.negative) x.magnitude

def scaleUp (n : Nat) (e : Int) : Nat := n*power 2 e.toNat

/-- The quotient `num/(den·2^e)` rounded to a natural number, ties to even. -/
def roundAt (num den : Nat) (e : Int) : Nat :=
  let n := scaleUp num (-e)
  let d := scaleUp den e
  let q := n/d
  let r := n%d
  if d < 2*r ∨ (2*r = d ∧ q%2 = 1) then q+1 else q

/-- The binary exponent of the unit in the last place of `num/den`. -/
def unitExponent (num den : Nat) : Int :=
  let e : Int := (Nat.log2 num : Int)-(Nat.log2 den : Int)-52
  let e := if scaleUp num (-e)/scaleUp den e < hiddenBit then e-1 else e
  max e (-1074)

/-- The number nearest to `num/den`. Adding the rounded quotient to the exponent field lets a
carry run over into the next binade and, past the last one, into infinity. -/
def ofRatio (neg : Bool) (num den : Nat) : Binary64 :=
  if num = 0 then zero neg else
    let e := unitExponent num den
    ofMagnitude neg (min ((e+1074).toNat*hiddenBit+roundAt num den e) infinityMagnitude)

def ofNat (n : Nat) : Binary64 := ofRatio false n 1
def ofInt (n : Int) : Binary64 := ofRatio (decide (n < 0)) n.natAbs 1

/-- `c·10^e`, rounded once. Exponents far outside the range are settled before any power is built. -/
def ofDecimal (neg : Bool) (c : Nat) (e : Int) : Binary64 :=
  if c = 0 then zero neg else
    let top := e+(Nat.log2 c : Int)/3+1
    if 400 < e then infinity neg
    else if top < -400 then zero neg
    else ofRatio neg (c*power 10 e.toNat) (power 10 (-e).toNat)

def mul (x y : Binary64) : Binary64 :=
  let neg := x.negative != y.negative
  if x.isNaN || y.isNaN then nan
  else if x.isInfinite || y.isInfinite then
    if x.isZero || y.isZero then nan else infinity neg
  else
    let e := x.exponent+y.exponent
    ofRatio neg (scaleUp (x.significand*y.significand) e) (scaleUp 1 (-e))

def div (x y : Binary64) : Binary64 :=
  let neg := x.negative != y.negative
  if x.isNaN || y.isNaN then nan
  else if x.isInfinite then if y.isInfinite then nan else infinity neg
  else if y.isInfinite then zero neg
  else if y.isZero then if x.isZero then nan else infinity neg
  else
    let e := x.exponent-y.exponent
    ofRatio neg (scaleUp x.significand e) (scaleUp y.significand (-e))

/-- Position on the number line; the two zeros share one. -/
def rank (x : Binary64) : Int := if x.negative then -(x.magnitude : Int) else x.magnitude

/-- False as soon as either side is not a number. -/
def le (x y : Binary64) : Bool := !x.isNaN && !y.isNaN && decide (x.rank ≤ y.rank)

/-- The integral part, toward zero, held between zero and `limit`. -/
def toNatWithin (x : Binary64) (limit : Nat) : Nat :=
  if x.isNaN || x.negative then 0
  else if x.isInfinite then limit
  else min (scaleUp x.significand x.exponent/scaleUp 1 (-x.exponent)) limit

/-- The nearest natural number, a half going up, held between zero and `limit`. -/
def nearestWithin (x : Binary64) (limit : Nat) : Nat :=
  if x.isNaN || x.negative then 0
  else if x.isInfinite then limit
  else
    let den := scaleUp 1 (-x.exponent)
    min ((2*scaleUp x.significand x.exponent+den)/(2*den)) limit

example : ofDecimal false 1 (-1) = ⟨0x3FB999999999999A⟩ := by decide +kernel
example : ofDecimal false 5 (-324) = ⟨1⟩ := by decide +kernel
example : ofDecimal false 17976931348623157 292 = ⟨0x7FEFFFFFFFFFFFFF⟩ := by decide +kernel
example : (ofDecimal false 25 (-1)).nearestWithin 9 = 3 := by decide +kernel
example : div (ofNat 1) (ofNat 3) = ⟨0x3FD5555555555555⟩ := by decide +kernel
example : mul (ofDecimal false 1 200) (ofDecimal false 1 200) = infinity false := by decide +kernel

end Binary64

end HostMeter
