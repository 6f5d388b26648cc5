import HostMeter.Json.Value
import HostMeter.Number.Limits
set_option autoImplicit false

/-! Documents as they are read. A text is read as far as it goes: what is wrong with it stays in the
document at the place where a reader meets it, so that a reader who has no use for a part is not
bothered by what only spoils its value. -/

namespace HostMeter

/-- A text either holds something it must not hold or ends too early. -/
inductive Fault
  | malformed
  | truncated
  deriving DecidableEq, Repr

inductive Doc where
  | null
  | bool (b : Bool)
  | int (n : Int)
  | float (x : Binary64)
  | str (s : String)
  /-- Items up to the closing bracket, or to where the text goes wrong instead. -/
  | seq (items : List Doc) (stop : Option Fault)
  /-- Fields likewise; a key may be spoiled while its field can still be passed over. -/
  | map (fields : List (Except Fault String × Doc)) (stop : Option Fault)
  | keyless (first : Doc)
  | cut (passed : Fault)
  /-- A value that cannot be had, and what happens to a reader who passes over it. -/
  | flawed (wanted : Fault) (passed : Option Fault)
  deriving Repr, Inhabited

namespace Doc

/-- A text that breaks off for every reader. -/
def broken (f : Fault) : Doc := .flawed f (some f)

mutual

def ofJson : Json → Doc
  | .null => .null
  | .bool b => .bool b
  | .int n => .int n
  | .float x => .float x
  | .str s => .str s
  | .arr items => .seq (ofItems items) none
  | .obj fields => .map (ofFields fields) none

def ofItems : List Json → List Doc
  | [] => []
  | v :: vs => ofJson v :: ofItems vs

def ofFields : List (String × Json) → List (Except Fault String × Doc)
  | [] => []
  | (k,v) :: fs => (.ok k,ofJson v) :: ofFields fs

end

mutual

/-- What a reader meets on passing over the whole value. -/
def passing : Doc → Option Fault
  | .seq items stop => (passingItems items).or stop
  | .map fields stop => (passingFields fields).or stop
  | .keyless _ => some .malformed
  | .cut passed => some passed
  | .flawed _ passed => passed
  | _ => none

def passingItems : List Doc → Option Fault
  | [] => none
  | d :: ds => d.passing.or (passingItems ds)

def passingFields : List (Except Fault String × Doc) → Option Fault
  | [] => none
  | (_,d) :: fs => d.passing.or (passingFields fs)

end

mutual

/-- What a reader meets who keeps the whole value, with room for `depth` further levels. -/
def keeping (depth : Nat) : Doc → Option Fault
  | .seq items stop => if depth ≤ 1 then some .malformed else (keepingItems (depth-1) items).or stop
  | .map fields stop => if depth ≤ 1 then some .malformed else (keepingFields (depth-1) fields).or stop
  | .keyless _ => some .malformed
  | .cut _ => some .truncated
  | .flawed wanted _ => some wanted
  | _ => none

def keepingItems (depth : Nat) : List Doc → Option Fault
  | [] => none
  | d :: ds => (d.keeping depth).or (keepingItems depth ds)

def keepingFields (depth : Nat) : List (Except Fault String × Doc) → Option Fault
  | [] => none
  | (k,d) :: fs => (match k with | .error f => some f | .ok _ => d.keeping depth).or
      (keepingFields depth fs)

end

mutual

/-- The value of a document without flaws; later fields win over earlier ones of the same key. -/
def toJson? : Doc → Option Json
  | .null => some .null
  | .bool b => some (.bool b)
  | .int n => some (.int n)
  | .float x => some (.float x)
  | .str s => some (.str s)
  | .seq items none => (itemsToJson? items).map .arr
  | .map fields none => (fieldsToJson? fields).map (fun fs => .obj (lastWins fs))
  | _ => none

def itemsToJson? : List Doc → Option (List Json)
  | [] => some []
  | d :: ds => (d.toJson?).bind (fun v => (itemsToJson? ds).map (v :: ·))

def fieldsToJson? : List (Except Fault String × Doc) → Option (List (String × Json))
  | [] => some []
  | (.ok k,d) :: fs => (d.toJson?).bind (fun v => (fieldsToJson? fs).map ((k,v) :: ·))
  | (.error _,_) :: _ => none

def lastWins (fs : List (String × Json)) : List (String × Json) :=
  fs.foldl (fun acc f => acc.filter (·.1 ≠ f.1)++[f]) []

end

/-- A value and the text after it; nothing is left once the text has broken off. -/
structure Read where
  doc : Doc
  rest : Option (List Char)

def Read.stop (f : Fault) : Read := ⟨broken f,none⟩

def isSpace (c : Char) : Bool := c = ' ' || c = '\n' || c = '\t' || c = '\r'
def skipSpace (cs : List Char) : List Char := cs.dropWhile isSpace

def readWord (value : Doc) : List Char → List Char → Read
  | [],cs => ⟨value,some cs⟩
  | _ :: _,[] => ⟨.cut .truncated,none⟩
  | w :: ws,c :: cs => if w = c then readWord value ws cs else .stop .malformed

/-- A quoted text: its characters, the first thing that spoils it for a reader who wants it, and
where the text goes on for one who does not. -/
structure Quote where
  chars : List Char
  spoiled : Option Fault
  rest : Except Fault (List Char)

namespace Quote

def stop (f : Fault) : Quote := ⟨[],none,.error f⟩
def push (c : Char) (q : Quote) : Quote := { q with chars := c :: q.chars }
def spoil (b : Bool) (q : Quote) : Quote := if b then { q with spoiled := some .malformed } else q

def wanted (q : Quote) : Except Fault String :=
  match q.spoiled,q.rest with
  | some f,_ => .error f
  | none,.error f => .error f
  | none,.ok _ => .ok (String.ofList q.chars)

end Quote

def hexValue? (c : Char) : Option Nat :=
  if c.isDigit then some (c.toNat - '0'.toNat)
  else if 'a' ≤ c ∧ c ≤ 'f' then some (c.toNat - 'a'.toNat+10)
  else if 'A' ≤ c ∧ c ≤ 'F' then some (c.toNat - 'A'.toNat+10)
  else none

def hexUnit? (a b c d : Char) : Option Nat := do
  pure (((((← hexValue? a)*16)+(← hexValue? b))*16+(← hexValue? c))*16+(← hexValue? d))

def simpleEscape? (c : Char) : Option Char :=
  if c = '"' ∨ c = '\\' ∨ c = '/' then some c
  else if c = 'b' then some '\x08'
  else if c = 'f' then some '\x0c'
  else if c = 'n' then some '\n'
  else if c = 'r' then some '\r'
  else if c = 't' then some '\t'
  else none

def isLead (n : Nat) : Bool := 0xD800 ≤ n && n ≤ 0xDBFF
def isTrail (n : Nat) : Bool := 0xDC00 ≤ n && n ≤ 0xDFFF

/-- Fewer than four bytes after the mark of a numeric escape mean that the text ends too early,
whatever they are. -/
def shortEscape (cs : List Char) : Fault :=
  if 4 ≤ cs.foldl (fun n c => n+c.utf8Size) 0 then .malformed else .truncated

/-- Reads up to the closing quote. A leading surrogate waits in `lead` for its trailing one. -/
def readQuote (lead : Option Nat) : List Char → Quote
  | [] => .stop .truncated
  | '\\' :: 'u' :: a :: b :: c :: d :: rest =>
    match hexUnit? a b c d,lead with
    | none,_ => .stop .malformed
    | some n,none =>
      if isLead n then readQuote (some n) rest
      else if isTrail n then .spoil true (readQuote none rest)
      else .push (Char.ofNat n) (readQuote none rest)
    | some n,some m =>
      if isTrail n then .push (Char.ofNat (0x10000+(m-0xD800)*1024+(n-0xDC00))) (readQuote none rest)
      else .spoil true (readQuote none rest)
  | '\\' :: 'u' :: rest => .stop (shortEscape rest)
  | ['\\'] => .stop .truncated
  | '\\' :: e :: rest =>
    match simpleEscape? e with
    | none => .stop .malformed
    | some c => .spoil lead.isSome (.push c (readQuote none rest))
  | '"' :: rest => .spoil lead.isSome ⟨[],none,.ok rest⟩
  | c :: rest =>
    if c.toNat < 0x20 then .stop .malformed
    else .spoil lead.isSome (.push c (readQuote none rest))

/-! Digits are gathered in a word of 64 bits for as long as they fit; the rest of a long number only
moves its exponent. A number with a fraction, an exponent or too many digits is that word, rounded,
then scaled by one power of ten at a time, and rounded again. -/

def wordLimit : Nat := limit64

def gather : Nat → List Char → Nat × List Char
  | n,[] => (n,[])
  | n,c :: cs => if 10*n+digitVal c < wordLimit then gather (10*n+digitVal c) cs else (n,c :: cs)
where digitVal (c : Char) : Nat := c.toNat - '0'.toNat

def pow10 (k : Nat) : Binary64 := Binary64.ofDecimal false 1 k

/-- Scales by `10^e`; out of range is nothing. -/
def scale (f : Binary64) : Nat → Int → Option Binary64
  | 0,_ => some (Binary64.zero false)
  | fuel+1,e =>
    if e.natAbs ≤ 308 then
      if 0 ≤ e then (some (f.mul (pow10 e.natAbs))).filter (·.isFinite)
      else some (f.div (pow10 e.natAbs))
    else if f.isZero then some f
    else if 0 ≤ e then none
    else scale (f.div (pow10 308)) fuel (e+308)

/-- The double for a word and a power of ten. After three divisions by `10^308` no word is left. -/
def scaled (neg : Bool) (n : Nat) (e : Int) : Option Binary64 :=
  (scale (Binary64.ofNat n) 6 e).map (fun f => if neg then f.neg else f)

def exponentLimit : Nat := limit31-1

def number (neg : Bool) (whole fraction : List Char) (pointed : Bool)
    (exponent : Option (Bool × List Char)) : Doc :=
  let (n,spilled) := gather 0 whole
  let (m,left) := gather n fraction
  let e : Int := spilled.length-(fraction.length-left.length : Nat)
  match exponent with
  | none =>
    if pointed ∨ spilled ≠ [] then ofScaled (scaled neg m e)
    else if !neg then .int n
    else if 0 < n ∧ n ≤ limit63 then .int (-(n : Int))
    else .float (Binary64.ofNat n).neg
  | some (down,ds) =>
    let k := ds.foldl (fun k c => 10*k+(c.toNat - '0'.toNat)) 0
    if exponentLimit < k then
      if m ≠ 0 ∧ !down then .flawed .malformed none else .float (Binary64.zero neg)
    else ofScaled (scaled neg m (if down then e-k else e+k))
where
  ofScaled : Option Binary64 → Doc
    | none => .flawed .malformed none
    | some x => .float x

/-- A number that ends too early is merely malformed to a reader who passes over it. -/
def shortNumber : List Char → Read
  | [] => ⟨.cut .malformed,none⟩
  | _ => .stop .malformed

def readExponentPart (neg : Bool) (whole fraction : List Char) (pointed : Bool) (cs : List Char) :
    Read :=
  match cs with
  | [] => ⟨number neg whole fraction pointed none,some []⟩
  | c :: rest =>
    if c = 'e' ∨ c = 'E' then
      let (down,rest) : Bool × List Char := match rest with
        | '-' :: r => (true,r)
        | '+' :: r => (false,r)
        | r => (false,r)
      let ds := rest.takeWhile Char.isDigit
      if ds = [] then shortNumber rest
      else ⟨number neg whole fraction pointed (some (down,ds)),some (rest.dropWhile Char.isDigit)⟩
    else ⟨number neg whole fraction pointed none,some cs⟩

def readNumber (neg : Bool) (cs : List Char) : Read :=
  let whole := cs.takeWhile Char.isDigit
  let rest := cs.dropWhile Char.isDigit
  if whole = [] then shortNumber cs
  else if whole.head? = some '0' ∧ 1 < whole.length then .stop .malformed
  else match rest with
    | '.' :: rest =>
      let fraction := rest.takeWhile Char.isDigit
      if fraction = [] then shortNumber rest
      else readExponentPart neg whole fraction true (rest.dropWhile Char.isDigit)
    | _ => readExponentPart neg whole [] false rest

mutual

/-- Reads one value. Each step takes at least a character, so `fuel` need not exceed their number. -/
def readValue : Nat → List Char → Read
  | 0,_ => .stop .truncated
  | fuel+1,cs =>
    match skipSpace cs with
    | [] => .stop .truncated
    | 'n' :: rest => readWord .null ['u','l','l'] rest
    | 't' :: rest => readWord (.bool true) ['r','u','e'] rest
    | 'f' :: rest => readWord (.bool false) ['a','l','s','e'] rest
    | '"' :: rest =>
      let q := readQuote none rest
      match q.rest with
      | .ok rest => ⟨match q.wanted with | .ok s => .str s | .error f => .flawed f none,some rest⟩
      | .error f => ⟨.flawed (match q.wanted with | .ok _ => f | .error g => g) (some f),none⟩
    | '-' :: rest => readNumber true rest
    | '[' :: rest =>
      match skipSpace rest with
      | ']' :: rest => ⟨.seq [] none,some rest⟩
      | [] => ⟨.seq [] (some .truncated),none⟩
      | rest =>
        let (items,stop,rest) := readItems fuel rest
        ⟨.seq items stop,rest⟩
    | '{' :: rest =>
      match skipSpace rest with
      | '}' :: rest => ⟨.map [] none,some rest⟩
      | [] => ⟨.map [] (some .truncated),none⟩
      | '"' :: rest =>
        let (fields,stop,rest) := readFields fuel rest
        ⟨.map fields stop,rest⟩
      | rest => ⟨.keyless (readValue fuel rest).doc,none⟩
    | c :: rest => if c.isDigit then readNumber false (c :: rest) else .stop .malformed

def readItems : Nat → List Char → List Doc × Option Fault × Option (List Char)
  | 0,_ => ([],some .truncated,none)
  | fuel+1,cs =>
    match readValue fuel cs with
    | ⟨d,none⟩ => ([d],none,none)
    | ⟨d,some rest⟩ =>
      match skipSpace rest with
      | ']' :: rest => ([d],none,some rest)
      | ',' :: rest =>
        match skipSpace rest with
        | ']' :: _ => ([d,broken .malformed],none,none)
        | [] => ([d,broken .truncated],none,none)
        | rest =>
          let (ds,stop,rest) := readItems fuel rest
          (d :: ds,stop,rest)
      | [] => ([d],some .truncated,none)
      | _ => ([d],some .malformed,none)

def readFields : Nat → List Char →
    List (Except Fault String × Doc) × Option Fault × Option (List Char)
  | 0,_ => ([],some .truncated,none)
  | fuel+1,cs =>
    let q := readQuote none cs
    match q.rest with
    | .error f => ([(q.wanted,broken f)],none,none)
    | .ok rest =>
      match skipSpace rest with
      | [] => ([(q.wanted,broken .truncated)],none,none)
      | ':' :: rest =>
        match readValue fuel rest with
        | ⟨d,none⟩ => ([(q.wanted,d)],none,none)
        | ⟨d,some rest⟩ =>
          match skipSpace rest with
          | '}' :: rest => ([(q.wanted,d)],none,some rest)
          | ',' :: rest =>
            match skipSpace rest with
            | '"' :: rest =>
              let (fs,stop,rest) := readFields fuel rest
              ((q.wanted,d) :: fs,stop,rest)
            | [] => ([(q.wanted,d),(.error .truncated,broken .truncated)],none,none)
            | _ => ([(q.wanted,d),(.error .malformed,broken .malformed)],none,none)
          | [] => ([(q.wanted,d)],some .truncated,none)
          | _ => ([(q.wanted,d)],some .malformed,none)
      | _ => ([(q.wanted,broken .malformed)],none,none)

end

def read (s : String) : Doc × Option Fault :=
  let cs := s.toList
  match readValue (cs.length+1) cs with
  | ⟨d,none⟩ => (d,none)
  | ⟨d,some rest⟩ => (d,if skipSpace rest = [] then none else some .malformed)

end Doc

def Json.ofText? (s : String) : Option Json :=
  match Doc.read s with
  | (d,none) => d.toJson?
  | (_,some _) => none

end HostMeter
