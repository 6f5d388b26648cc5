import HostMeter.Number.Binary64
import HostMeter.Number.Limits
set_option autoImplicit false

/-! Reading numbers from text: whole words with an optional sign, and decimal literals. -/

namespace HostMeter

def digitValue (c : Char) : Nat := c.toNat - '0'.toNat

def natOfDigits (cs : List Char) : Nat := cs.foldl (fun n c => 10*n+digitValue c) 0

def readDigits (cs : List Char) : Option Nat :=
  if cs ≠ [] ∧ cs.all Char.isDigit then some (natOfDigits cs) else none

/-- An unsigned word below `limit`: digits after at most one plus sign. -/
def readUnsigned (limit : Nat) (cs : List Char) : Option Nat :=
  (readDigits (match cs with | '+' :: rest => rest | _ => cs)).filter (· < limit)

def readWord64 (cs : List Char) : Option UInt64 := (readUnsigned limit64 cs).map UInt64.ofNat

def readSigned (cs : List Char) : Option Int :=
  match cs with
  | '-' :: rest => ((readDigits rest).filter (· ≤ limit63)).map (fun n => -(n : Int))
  | _ => (readUnsigned limit63 cs).map (fun n => (n : Int))

/-- The parts of a decimal literal: its digits before and after the point and its exponent. -/
structure Literal where
  negative : Bool
  whole : List Char
  fraction : List Char
  exponent : Int
  deriving DecidableEq, Repr

namespace Literal

def splitSign : List Char → Bool × List Char
  | '-' :: rest => (true,rest)
  | '+' :: rest => (false,rest)
  | cs => (false,cs)

def splitFraction : List Char → List Char × List Char
  | '.' :: rest => (rest.takeWhile Char.isDigit,rest.dropWhile Char.isDigit)
  | cs => ([],cs)

def readExponent : List Char → Option Int
  | [] => some 0
  | c :: rest =>
    if c = 'e' ∨ c = 'E' then
      let (neg,digits) := splitSign rest
      (readDigits digits).map (fun n => if neg then -(n : Int) else n)
    else none

/-- At least one digit on either side of the point, then an optional exponent. -/
def read (cs : List Char) : Option Literal :=
  let (neg,cs) := splitSign cs
  let whole := cs.takeWhile Char.isDigit
  let (fraction,rest) := splitFraction (cs.dropWhile Char.isDigit)
  if whole = [] ∧ fraction = [] then none
  else (readExponent rest).map (fun e => ⟨neg,whole,fraction,e⟩)

def value (l : Literal) : Binary64 :=
  Binary64.ofDecimal l.negative (natOfDigits (l.whole++l.fraction)) (l.exponent-l.fraction.length)

end Literal

def lowerAscii (cs : List Char) : List Char := cs.map Char.toLower

/-- A double in text: a decimal literal, or an infinity or not-a-number in any letter case. -/
def Binary64.ofText? (cs : List Char) : Option Binary64 :=
  let (neg,rest) := Literal.splitSign cs
  let word := String.ofList (lowerAscii rest)
  if word = "inf" ∨ word = "infinity" then some (infinity neg)
  else if word = "nan" then some (if neg then nan.neg else nan)
  else (Literal.read cs).map Literal.value

example : readWord64 "+007".toList = some 7 := by decide +kernel
example : readWord64 "18446744073709551616".toList = none := by decide +kernel
example : readSigned "-9223372036854775808".toList = some (-9223372036854775808) := by decide +kernel
example : Binary64.ofText? ".5".toList = some (Binary64.ofDecimal false 5 (-1)) := by decide +kernel
example : Binary64.ofText? "1e".toList = none := by decide +kernel

end HostMeter
