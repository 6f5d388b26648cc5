import HostMeter.Text.Utf8
set_option autoImplicit false

/-! Percent signs in addresses: a byte written as its two hexadecimal digits. -/

namespace HostMeter.Web

def grave : Char := Char.ofNat 0x60

def upperHex (n : Nat) : Char := (Nat.digitChar (n%16)).toUpper

def percentByte (b : UInt8) : List Char := ['%',upperHex (b.toNat/16),upperHex b.toNat]

def isControlByte (b : UInt8) : Bool := b < 0x20 || 0x7E < b

/-- Which characters of ASCII are written by their number, besides controls. -/
structure PercentSet where
  chars : List Char

namespace PercentSet

def fragment : PercentSet := ⟨[' ','"','<','>',grave]⟩
def path : PercentSet := ⟨fragment.chars++['#','?','{','}']⟩
def userinfo : PercentSet := ⟨path.chars++['/',':',';','=','@','[','\\',']','^','|']⟩
def query : PercentSet := ⟨[' ','"','#','<','>','\'']⟩

def covers (s : PercentSet) (b : UInt8) : Bool :=
  isControlByte b || s.chars.any (fun c => c.toNat = b.toNat)

def encodeBytes (s : PercentSet) (bs : Bytes) : List Char :=
  bs.flatMap fun b => if s.covers b then percentByte b else [Char.ofNat b.toNat]

def encode (s : PercentSet) (cs : List Char) : List Char :=
  s.encodeBytes (Utf8.encode (String.ofList cs))

end PercentSet

def hexDigit? (b : UInt8) : Option Nat :=
  let n := b.toNat
  if 48 ≤ n && n ≤ 57 then some (n-48)
  else if 65 ≤ n && n ≤ 70 then some (n-55)
  else if 97 ≤ n && n ≤ 102 then some (n-87)
  else none

/-- A percent sign without two digits behind it stands for itself. -/
def percentDecode : Bytes → Bytes
  | 37 :: a :: b :: rest =>
    match hexDigit? a,hexDigit? b with
    | some x,some y => UInt8.ofNat (16*x+y) :: percentDecode rest
    | _,_ => 37 :: percentDecode (a :: b :: rest)
  | b :: rest => b :: percentDecode rest
  | [] => []
termination_by bs => bs.length

end HostMeter.Web
