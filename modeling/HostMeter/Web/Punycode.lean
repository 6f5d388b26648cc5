set_option autoImplicit false

/-! The writing of a word in any script with the letters, digits and the hyphen of ASCII. What is not
ASCII is told as a list of steps over the characters and places still possible, each step a number of
variable length in base 36 whose digit thresholds adapt to the steps before. -/

namespace HostMeter.Web.Punycode

def digitChar (d : Nat) : Char := if d < 26 then Char.ofNat (97+d) else Char.ofNat (22+d)

def digitValue? (c : Char) : Option Nat :=
  let n := c.toNat
  if 97 ≤ n && n ≤ 122 then some (n-97)
  else if 65 ≤ n && n ≤ 90 then some (n-65)
  else if 48 ≤ n && n ≤ 57 then some (n-22)
  else none

def threshold (k bias : Nat) : Nat := min 26 (max 1 (k-bias))

def shrink (delta : Nat) : Nat × Nat :=
  if 455 < delta then
    let (d,k) := shrink (delta/35)
    (d,k+1)
  else (delta,0)
termination_by delta
decreasing_by omega

def adapt (delta count : Nat) (first : Bool) : Nat :=
  let d := if first then delta/700 else delta/2
  let (d,k) := shrink (d+d/count)
  36*k+36*d/(d+38)

def stepDigits (bias k q : Nat) : List Char :=
  let t := threshold k bias
  if q < t then [digitChar q]
  else digitChar (t+(q-t)%(36-t)) :: stepDigits bias (k+36) ((q-t)/(36-t))
termination_by q
decreasing_by
  have h₁ : 1 ≤ threshold k bias := by unfold threshold; omega
  exact Nat.lt_of_le_of_lt (Nat.div_le_self _ _) (by omega)

structure State where
  output : List Char := []
  delta : Nat := 0
  bias : Nat := 72
  handled : Nat
  first : Bool := true

def pass (m : Nat) : List Char → State → State
  | [],s => s
  | c :: cs,s =>
    if c.toNat < m then pass m cs { s with delta := s.delta+1 }
    else if c.toNat = m then
      pass m cs
        { output := s.output++stepDigits s.bias 36 s.delta
          delta := 0
          bias := adapt s.delta (s.handled+1) s.first
          handled := s.handled+1
          first := false }
    else pass m cs s

def passes (word : List Char) : Nat → List Nat → State → State
  | _,[],s => s
  | n,m :: ms,s =>
    let s := pass m word { s with delta := s.delta+(m-n)*(s.handled+1) }
    passes word (m+1) ms { s with delta := s.delta+1 }

def isBasic (c : Char) : Bool := c.toNat < 128

def encode (word : List Char) : List Char :=
  let basic := word.filter isBasic
  let others := ((word.filter (fun c => !isBasic c)).map Char.toNat).mergeSort.eraseDups
  let s := passes word 128 others { handled := basic.length }
  basic++(if basic.isEmpty then [] else ['-'])++s.output

/-- Reads one step; a digit above its threshold goes on, one below it ends the step. -/
def readStep (bias : Nat) : Nat → Nat → Nat → List Char → Option (Nat × List Char)
  | _,_,_,[] => none
  | k,weight,value,c :: cs => do
    let d ← digitValue? c
    let t := threshold k bias
    if d < t then some (value+d*weight,cs)
    else readStep bias (k+36) (weight*(36-t)) (value+d*weight) cs

/-- Reads steps and puts a character in at each; there are no more steps than characters. -/
def readSteps : Nat → Nat → Nat → Nat → List Char → List Char → Option (List Char)
  | _,_,_,_,word,[] => some word
  | 0,_,_,_,_,_ => none
  | fuel+1,n,i,bias,word,cs => do
    let (step,rest) ← readStep bias 36 1 0 cs
    let places := word.length+1
    let n := n+(i+step)/places
    let j := (i+step)%places
    let c := Char.ofNat n
    if c.toNat = n then
      readSteps fuel n (j+1) (adapt step places (i = 0)) (word.take j++c :: word.drop j) rest
    else none

/-- The characters of ASCII stand before the last hyphen. -/
def decode (cs : List Char) : Option (List Char) :=
  let steps := cs.reverse.takeWhile (· ≠ '-')
  let basic := (cs.reverse.drop (steps.length+1)).reverse
  if basic.all isBasic then readSteps cs.length 128 0 72 basic steps.reverse else none

example : encode "bücher".toList = "bcher-kva".toList := by decide +kernel
example : decode "bcher-kva".toList = some "bücher".toList := by decide +kernel

end HostMeter.Web.Punycode
