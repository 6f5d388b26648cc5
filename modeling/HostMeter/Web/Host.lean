import HostMeter.Number.Limits
import HostMeter.Number.Literal
import HostMeter.Text.Blank
import HostMeter.Web.Domain
import HostMeter.Web.Percent
set_option autoImplicit false

/-! Hosts of addresses: names, and numeric addresses of either length, in their normal form. -/

namespace HostMeter.Web

inductive HostError
  | empty
  | domain
  | ipv4
  | ipv6
  | character
  deriving DecidableEq, Repr

def HostError.message : HostError → String
  | .empty => "empty host"
  | .domain => "invalid international domain name"
  | .ipv4 => "invalid IPv4 address"
  | .ipv6 => "invalid IPv6 address"
  | .character => "invalid domain character"

def digitIn (base : Nat) (c : Char) : Option Nat :=
  match hexDigit? (UInt8.ofNat c.toNat) with
  | some d => if c.toNat < 128 && d < base then some d else none
  | none => none

def readBase (base : Nat) (cs : List Char) : Option Nat :=
  cs.foldlM (fun n c => (digitIn base c).map (fun d => n*base+d)) 0

/-- A number of an address: decimal, octal after a zero, hexadecimal after `0x`. -/
def addressNumber : List Char → Option Nat
  | [] => none
  | '0' :: 'x' :: cs => readBase 16 cs
  | '0' :: 'X' :: cs => readBase 16 cs
  | ['0'] => some 0
  | '0' :: cs => readBase 8 cs
  | cs => readBase 10 cs

def dottedParts (cs : List Char) : List (List Char) :=
  let parts := Text.splitAll (· = '.') cs
  if parts.getLast? = some [] then parts.dropLast else parts

/-- A name whose last part is a number has to be an address. -/
def endsInNumber (cs : List Char) : Bool :=
  match (dottedParts cs).getLast? with
  | none => false
  | some last => (!last.isEmpty && last.all Char.isDigit) || (addressNumber last).isSome

/-- The last number fills all bytes that the ones before it leave. -/
def ipv4? (cs : List Char) : Option Nat := do
  let ns ← (dottedParts cs).mapM addressNumber
  let last ← ns.getLast?
  let heads := ns.dropLast
  if 3 < heads.length || heads.any (255 < ·) || power 256 (4-heads.length) ≤ last then none
  else some (heads.zipIdx.foldl (fun a p => a+p.1*power 256 (3-p.2)) last)

def ipv4Text (n : Nat) : List Char :=
  (".".intercalate ([3,2,1,0].map (fun k => toString (n/power 256 k%256)))).toList

def piece (cs : List Char) : Option Nat :=
  if cs.isEmpty || 4 < cs.length then none else readBase 16 cs

/-- Four decimal bytes without leading zeros make two pieces. -/
def dottedPieces (cs : List Char) : Option (List Nat) := do
  let parts := Text.splitAll (· = '.') cs
  let ns ← parts.mapM fun p =>
    if p.isEmpty || (p.head? = some '0' && 1 < p.length) then none else readBase 10 p
  match ns with
  | [a,b,c,d] => if ns.all (· ≤ 255) then some [a*256+b,c*256+d] else none
  | _ => none

def pieces : List (List Char) → Option (List Nat)
  | [] => some []
  | [p] => if p.contains '.' then dottedPieces p else (piece p).map ([·])
  | p :: ps => do
    let n ← piece p
    let ns ← pieces ps
    some (n :: ns)

def piecesOf (cs : List Char) : Option (List Nat) :=
  if cs.isEmpty then some [] else pieces (Text.splitAll (· = ':') cs)

def atGap : List Char → Option (List Char × List Char)
  | ':' :: ':' :: rest => some ([],rest)
  | c :: rest => (atGap rest).map (fun p => (c :: p.1,p.2))
  | [] => none

/-- Eight pieces; a double colon stands for at least one that is zero. -/
def ipv6? (cs : List Char) : Option (List Nat) := do
  match atGap cs with
  | some (a,b) =>
    if a.contains '.' then none
    else
      let heads ← piecesOf a
      let tails ← piecesOf b
      if heads.length+tails.length ≤ 7 then
        some (heads++List.replicate (8-heads.length-tails.length) 0++tails)
      else none
  | none =>
    let ns ← piecesOf cs
    if ns.length = 8 then some ns else none

def zeroRun (ns : List Nat) : Nat := (ns.takeWhile (· = 0)).length

def longestZeros (ns : List Nat) : Nat × Nat :=
  (List.range ns.length).foldl (fun best i =>
    if best.2 < zeroRun (ns.drop i) then (i,zeroRun (ns.drop i)) else best) (0,0)

def hexText (n : Nat) : String := String.ofList (Nat.toDigits 16 n)

def ipv6Text (ns : List Nat) : List Char :=
  let joined (ns : List Nat) : String := ":".intercalate (ns.map hexText)
  let (start,length) := longestZeros ns
  let text :=
    if length < 2 then joined ns
    else joined (ns.take start)++"::"++joined (ns.drop (start+length))
  "[".toList++text.toList++"]".toList

def bracketed (cs : List Char) : Except HostError (List Char) :=
  match Text.dropTail? [']'] cs with
  | some inner => match ipv6? inner with
    | some ns => .ok (ipv6Text ns)
    | none => .error .ipv6
  | none => .error .ipv6

def readHost (cs : List Char) : Except HostError (List Char) :=
  match cs with
  | [] => .error .empty
  | '[' :: rest => bracketed rest
  | _ =>
    match wireDomain (percentDecode (Utf8.encode (String.ofList cs))) with
    | none => .error .domain
    | some [] => .error .empty
    | some name =>
      if endsInNumber name then
        match ipv4? name with
        | some n => .ok (ipv4Text n)
        | none => .error .ipv4
      else .ok name

def forbiddenInHost : List Char :=
  [' ','#','/',':','<','>','?','@','[','\\',']','^','|','\x00']

/-- The host of any other address is taken as it is. -/
def readOpenHost (cs : List Char) : Except HostError (List Char) :=
  match cs with
  | '[' :: rest => bracketed rest
  | _ => if cs.any forbiddenInHost.contains then .error .character else .ok cs

end HostMeter.Web
