set_option autoImplicit false

/-! Text from bytes. A decoding step takes one well-formed sequence, or the longest start of one
when the bytes go wrong; readers differ only in what they make of the latter. -/

namespace HostMeter

abbrev Bytes := List UInt8

namespace Utf8

/-- What the first bytes hold. `bad` says how many of them cannot be continued to a character. -/
inductive Step
  | ends
  | char (c : Char) (size : Nat)
  | bad (size : Nat)
  deriving Repr

def isTail (b : UInt8) : Bool := 0x80 ≤ b && b ≤ 0xBF

def second (a : UInt8) : Option (UInt8 × UInt8 × Nat) :=
  if 0xC2 ≤ a ∧ a ≤ 0xDF then some (0x80,0xBF,2)
  else if a = 0xE0 then some (0xA0,0xBF,3)
  else if a = 0xED then some (0x80,0x9F,3)
  else if 0xE1 ≤ a ∧ a ≤ 0xEF then some (0x80,0xBF,3)
  else if a = 0xF0 then some (0x90,0xBF,4)
  else if 0xF1 ≤ a ∧ a ≤ 0xF3 then some (0x80,0xBF,4)
  else if a = 0xF4 then some (0x80,0x8F,4)
  else none

def low6 (b : UInt8) : Nat := b.toNat%64

def step : Bytes → Step
  | [] => .ends
  | a :: rest =>
    if a < 0x80 then .char (Char.ofNat a.toNat) 1
    else match second a with
      | none => .bad 1
      | some (lo,hi,size) =>
        match rest with
        | [] => .bad 1
        | b :: rest =>
          if b < lo ∨ hi < b then .bad 1
          else if size = 2 then .char (Char.ofNat (a.toNat%32*64+low6 b)) 2
          else match rest with
            | [] => .bad 2
            | c :: rest =>
              if !isTail c then .bad 2
              else if size = 3 then .char (Char.ofNat ((a.toNat%16*64+low6 b)*64+low6 c)) 3
              else match rest with
                | [] => .bad 3
                | d :: _ =>
                  if !isTail d then .bad 3
                  else .char (Char.ofNat (((a.toNat%8*64+low6 b)*64+low6 c)*64+low6 d)) 4

/-- Decodes at most `fuel` pieces, putting `onBad` in the place of every ill-formed one. -/
def decodeWith (onBad : Option Char) : Nat → Bytes → Option (List Char)
  | 0,_ => some []
  | fuel+1,bs =>
    match step bs with
    | .ends => some []
    | .char c n => (decodeWith onBad fuel (bs.drop n)).map (c :: ·)
    | .bad n =>
      match onBad with
      | none => none
      | some r => (decodeWith onBad fuel (bs.drop n)).map (r :: ·)

/-- Every piece takes a byte, so as many steps as bytes suffice. -/
def decode? (bs : Bytes) : Option (List Char) := decodeWith none bs.length bs

/-- Each ill-formed piece becomes one replacement character. -/
def decodeLossy (bs : Bytes) : List Char := (decodeWith (some '\uFFFD') bs.length bs).getD []

def encode (s : String) : Bytes := s.toUTF8.data.toList

theorem decodeWith_some_isSome (r : Char) (fuel : Nat) (bs : Bytes) :
    (decodeWith (some r) fuel bs).isSome := by
  induction fuel generalizing bs with
  | zero => rfl
  | succ fuel ih =>
    unfold decodeWith
    split <;> simp [ih]

example : decodeLossy [0x61,0xF0,0x90,0x28,0xBC] = ['a','\uFFFD','(','\uFFFD'] := by decide +kernel
example : decode? [0xE1,0xA0,0xC0] = none := by decide +kernel

end Utf8

end HostMeter
