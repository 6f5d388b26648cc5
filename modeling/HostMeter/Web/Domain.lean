import HostMeter.Text.Blank
import HostMeter.Text.Utf8
import HostMeter.Web.Punycode
set_option autoImplicit false

/-! Names of hosts as they are written on the wire: in small letters, labels of other scripts in
punycode. Capital letters are known of the Latin, Greek and Cyrillic scripts. -/

namespace HostMeter.Web

/-- Ranges of letters whose capitals stand a fixed distance before the small ones. -/
def capitalBlocks : List (Nat × Nat × Nat) :=
  [(0x41,0x5A,32),(0xC0,0xD6,32),(0xD8,0xDE,32),(0x391,0x3A1,32),(0x3A3,0x3AB,32),(0x400,0x40F,80),
   (0x410,0x42F,32)]

/-- Ranges in which capitals and small letters take turns, a capital first. -/
def pairedBlocks : List (Nat × Nat) := [(0x100,0x12E),(0x14A,0x176),(0x460,0x480),(0x48A,0x4BE)]

def smallLetter (c : Char) : Char :=
  let n := c.toNat
  match capitalBlocks.find? (fun b => b.1 ≤ n && n ≤ b.2.1) with
  | some b => Char.ofNat (n+b.2.2)
  | none =>
    if pairedBlocks.any (fun b => b.1 ≤ n && n ≤ b.2 && n%2 = b.1%2) then Char.ofNat (n+1) else c

def mapCharacter (c : Char) : List Char :=
  let n := c.toNat
  if n = 0xAD ∨ n = 0x200B ∨ n = 0x2060 ∨ n = 0xFEFF then []
  else if n = 0x3002 ∨ n = 0xFF0E ∨ n = 0xFF61 then ['.']
  else if 0xFF01 ≤ n ∧ n ≤ 0xFF5E then [smallLetter (Char.ofNat (n-0xFEE0))]
  else [smallLetter c]

def punycodeHead : List Char := ['x','n','-','-']

/-- A label that claims to be punycode must be, and must need it. -/
def wireLabel (label : List Char) : Option (List Char) :=
  if label.all Punycode.isBasic then
    match Text.dropHead? punycodeHead label with
    | none => some label
    | some code =>
      match Punycode.decode code with
      | some word => if word.all Punycode.isBasic then none else some label
      | none => none
  else some (punycodeHead++Punycode.encode label)

def forbiddenInDomain : List Char := ['%','#','/',':','<','>','?','@','[','\\',']','^','|']

def isForbiddenInDomain (c : Char) : Bool :=
  c.toNat ≤ 0x20 || c.toNat = 0x7F || forbiddenInDomain.contains c

def wireDomain (bs : Bytes) : Option (List Char) := do
  let cs ← Utf8.decode? bs
  let labels ← (Text.splitAll (· = '.') (cs.flatMap mapCharacter)).mapM wireLabel
  let name := List.intercalate ['.'] labels
  if name.any isForbiddenInDomain then none else some name

end HostMeter.Web
