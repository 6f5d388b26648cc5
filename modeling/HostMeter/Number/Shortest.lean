import HostMeter.Number.Binary64
set_option autoImplicit false

/-! The fewest decimal digits that read back as a given double, and the two layouts in which
they are written. -/

namespace HostMeter

structure Decimal where
  coefficient : Nat
  exponent : Int
  deriving DecidableEq, Repr

def digitCount (n : Nat) : Nat := (Nat.toDigits 10 n).length

namespace Decimal

def stripZeros : Nat → Decimal → Decimal
  | 0, d => d
  | fuel+1, d =>
    if d.coefficient ≠ 0 ∧ d.coefficient%10 = 0 then
      stripZeros fuel ⟨d.coefficient/10,d.exponent+1⟩
    else d

/-- Numbers of the form `n·10^p·2^q` are compared after clearing the negative powers. -/
def cleared (n : Nat) (p q p₀ q₀ : Int) : Nat := n*power 10 (p-p₀).toNat*power 2 (q-q₀).toNat

end Decimal

namespace Binary64

/-- The reals that round to a finite non-zero number, as bounds in quarter units. -/
structure Interval where
  low : Nat
  mid : Nat
  high : Nat
  exponent : Int
  closed : Bool

def interval (x : Binary64) : Interval :=
  let m := x.significand
  { low := if m = hiddenBit ∧ 1 < x.field then 4*m-1 else 4*m-2
    mid := 4*m
    high := 4*m+2
    exponent := x.exponent-2
    closed := decide (m%2 = 0) }

namespace Interval

def leading (i : Interval) : Int :=
  let scaled := scaleUp (i.mid*power 10 400) i.exponent/scaleUp 1 (-i.exponent)
  (digitCount scaled : Int)-401

/-- The grid point `c·10^p` that has been asked for, when it rounds to the number. -/
def holds (i : Interval) (c : Nat) (p : Int) : Bool :=
  let p₀ := min p 0
  let q₀ := min i.exponent 0
  let point := Decimal.cleared c p 0 p₀ q₀
  let low := Decimal.cleared i.low 0 i.exponent p₀ q₀
  let high := Decimal.cleared i.high 0 i.exponent p₀ q₀
  if i.closed then decide (low ≤ point ∧ point ≤ high) else decide (low < point ∧ point < high)

/-- On the grid of step `10^p`, the neighbour of the number that rounds to it and lies nearest;
an exact tie goes to the even one. -/
def onGrid (i : Interval) (p : Int) : Option Nat :=
  let p₀ := min p 0
  let q₀ := min i.exponent 0
  let value := Decimal.cleared i.mid 0 i.exponent p₀ q₀
  let step := Decimal.cleared 1 p 0 p₀ q₀
  let c := value/step
  let r := value%step
  let below := i.holds c p
  let above := i.holds (c+1) p
  if below && above then some (if 2*r < step ∨ (2*r = step ∧ c%2 = 0) then c else c+1)
  else if below then some c
  else if above then some (c+1)
  else none

def search (i : Interval) (leading : Int) : Nat → Nat → Decimal
  | 0, n => ⟨(i.onGrid (leading+1-n)).getD 0,leading+1-n⟩
  | fuel+1, n =>
    match i.onGrid (leading+1-n) with
    | some c => ⟨c,leading+1-n⟩
    | none => search i leading fuel (n+1)

end Interval

/-- The shortest decimal that reads back as a finite number, sign aside. Seventeen digits always
suffice. -/
def shortest (x : Binary64) : Decimal :=
  if x.isZero then ⟨0,0⟩ else
    let i := x.interval
    Decimal.stripZeros 18 (i.search i.leading 16 1)

def signText (x : Binary64) : List Char := if x.negative then ['-'] else []

def zeros (n : Nat) : List Char := List.replicate n '0'

/-- Positional layout: a point only where a fraction needs one. -/
def positional (d : Decimal) : List Char :=
  let ds := Nat.toDigits 10 d.coefficient
  if 0 ≤ d.exponent then ds++zeros d.exponent.toNat
  else
    let k := (-d.exponent).toNat
    if k < ds.length then ds.take (ds.length-k) ++ '.' :: ds.drop (ds.length-k)
    else '0' :: '.' :: (zeros (k-ds.length)++ds)

/-- One digit before the point and the exponent after an `e`. -/
def scientific (d : Decimal) : List Char :=
  let ds := Nat.toDigits 10 d.coefficient
  let e := d.exponent+ds.length-1
  let mantissa := if ds.length = 1 then ds else ds.take 1 ++ '.' :: ds.drop 1
  mantissa ++ 'e' :: (toString e).toList

def pointed (cs : List Char) : List Char := if cs.contains '.' then cs else cs++['.','0']

def notFinite (x : Binary64) : List Char :=
  if x.isNaN then ['N','a','N'] else x.signText++['i','n','f']

/-- Plain text: always positional, and whole numbers carry no point. -/
def plainText (x : Binary64) : String :=
  String.ofList (if x.isFinite then x.signText++positional x.shortest else x.notFinite)

/-- Text of a number in a document: positional with a point from `1e-5` up to below `1e16`,
scientific elsewhere. -/
def documentText (x : Binary64) : String :=
  let d := x.shortest
  let lead := d.exponent+digitCount d.coefficient
  String.ofList <|
    if !x.isFinite then x.notFinite
    else if x.isZero ∨ (-5 < lead ∧ lead ≤ 16) then x.signText++pointed (positional d)
    else x.signText++scientific d

example : (ofDecimal false 3 (-1)).documentText = "0.3" := by decide +kernel
example : (ofDecimal true 30000000000000004 (-17)).documentText = "-0.30000000000000004" := by
  decide +kernel
example : (ofDecimal false 5 (-324)).documentText = "5e-324" := by decide +kernel
example : (ofDecimal false 1 5).documentText = "100000.0" := by decide +kernel
example : (ofDecimal false 1 21).plainText = "1000000000000000000000" := by decide +kernel
example : (ofDecimal false 17976931348623157 292).documentText = "1.7976931348623157e308" := by
  decide +kernel

end Binary64

end HostMeter
