import HostMeter.Json.Document
import HostMeter.Number.Limits
import HostMeter.Number.Literal
import HostMeter.Text.Blank
set_option autoImplicit false

/-! Settings in block style: keys and values by indentation, items behind dashes, scalars plain or in
quotes, and collections in brackets within a line. Anchors, tags and several documents are refused. -/

namespace HostMeter.Yaml

structure Line where
  indent : Nat
  text : List Char
  deriving DecidableEq, Repr

def Line.ofText (cs : List Char) : Line :=
  ⟨(cs.takeWhile (· = ' ')).length,cs.dropWhile (· = ' ')⟩

def isGap (c : Char) : Bool := c = ' ' || c = '\t'
def dropGap (cs : List Char) : List Char := cs.dropWhile isGap
def trimGap (cs : List Char) : List Char := (dropGap (dropGap cs).reverse).reverse

def isIdle (cs : List Char) : Bool :=
  match dropGap cs with
  | [] => true
  | c :: _ => c = '#'

def skipIdle (ls : List Line) : List Line := ls.dropWhile (isIdle ·.text)

/-- A plain scalar ends before a comment. -/
def dropComment : List Char → List Char
  | [] => []
  | [c] => [c]
  | c :: d :: cs => if isGap c && d = '#' then [] else c :: dropComment (d :: cs)

def base (b : Nat) (ds : List Char) : Option Int :=
  let digit (c : Char) : Option Nat := (Doc.hexValue? c).filter (· < b)
  if ds = [] then none
  else (ds.foldl (fun n c => n.bind fun n => (digit c).map (b*n+·)) (some 0)).bind fun n =>
    if n < limit63 then some n else none

def integer? (cs : List Char) : Option Int :=
  match cs with
  | '0' :: 'x' :: ds => base 16 ds
  | '0' :: 'o' :: ds => base 8 ds
  | cs => readSigned cs

def resolve (cs : List Char) : Json :=
  match String.ofList cs with
  | "~" | "null" | "" => .null
  | "true" => .bool true
  | "false" => .bool false
  | s => match integer? cs with
    | some n => .int n
    | none => match Binary64.ofText? cs with
      | some x => .float x
      | none => .str s

def single : List Char → Option (List Char × List Char)
  | '\'' :: '\'' :: cs => (single cs).map (fun r => ('\'' :: r.1,r.2))
  | '\'' :: cs => some ([],cs)
  | c :: cs => (single cs).map (fun r => (c :: r.1,r.2))
  | [] => none

def escape? (c : Char) : Option Char :=
  (([('0','\x00'),('a','\x07'),('b','\x08'),('t','\t'),('n','\n'),('v','\x0b'),('f','\x0c'),
     ('r','\r'),('e','\x1b'),(' ',' '),('"','"'),('/','/'),('\\','\\'),('_','\xa0')]
    : List (Char × Char)).find? (·.1 = c)).map (·.2)

def double : List Char → Option (List Char × List Char)
  | '"' :: cs => some ([],cs)
  | '\\' :: 'x' :: a :: b :: cs => do
    let n ← Doc.hexUnit? '0' '0' a b
    (double cs).map (fun r => (Char.ofNat n :: r.1,r.2))
  | '\\' :: 'u' :: a :: b :: c :: d :: cs => do
    let n ← Doc.hexUnit? a b c d
    (double cs).map (fun r => (Char.ofNat n :: r.1,r.2))
  | '\\' :: c :: cs => do
    let e ← escape? c
    (double cs).map (fun r => (e :: r.1,r.2))
  | c :: cs => (double cs).map (fun r => (c :: r.1,r.2))
  | [] => none

def quoted? (cs : List Char) : Option (List Char × List Char) :=
  match cs with
  | '"' :: cs => double cs
  | '\'' :: cs => single cs
  | _ => none

def isSpecial (c : Char) : Bool :=
  ['[',']','{','}',',','#','&','*','!','|','>','%','@','"','\''].contains c || c.toNat = 96

def endsItem (c : Char) : Bool := [',',']','}','[','{'].contains c

def plainItem : List Char → List Char × List Char
  | [] => ([],[])
  | ':' :: c :: cs =>
    if isGap c || endsItem c then ([],':' :: c :: cs)
    else let r := plainItem (c :: cs); (':' :: r.1,r.2)
  | c :: cs =>
    if endsItem c then ([],c :: cs) else let r := plainItem cs; (c :: r.1,r.2)

mutual

def flow : Nat → List Char → Option (Json × List Char)
  | 0,_ => none
  | fuel+1,cs =>
    match dropGap cs with
    | '[' :: cs => (flowItems fuel cs).map (fun r => (.arr r.1,r.2))
    | '{' :: cs => (flowFields fuel cs).map (fun r => (.obj (Doc.lastWins r.1),r.2))
    | cs =>
      match quoted? cs with
      | some (s,rest) => some (.str (String.ofList s),rest)
      | none =>
        let (s,rest) := plainItem cs
        if s.head?.any isSpecial then none else some (resolve (trimGap s),rest)

def flowItems : Nat → List Char → Option (List Json × List Char)
  | 0,_ => none
  | fuel+1,cs =>
    match dropGap cs with
    | ']' :: rest => some ([],rest)
    | cs => do
      let (v,rest) ← flow fuel cs
      match dropGap rest with
      | ',' :: rest => (flowItems fuel rest).map (fun r => (v :: r.1,r.2))
      | ']' :: rest => some ([v],rest)
      | _ => none

def flowFields : Nat → List Char → Option (List (String × Json) × List Char)
  | 0,_ => none
  | fuel+1,cs =>
    match dropGap cs with
    | '}' :: rest => some ([],rest)
    | cs => do
      let (k,rest) ← flow fuel cs
      let k ← match k with
        | .str s => some s
        | .int n => some (toString n)
        | _ => none
      let (v,rest) ← match dropGap rest with
        | ':' :: rest => flow fuel rest
        | rest => some (.null,rest)
      match dropGap rest with
      | ',' :: rest => (flowFields fuel rest).map (fun r => ((k,v) :: r.1,r.2))
      | '}' :: rest => some ([(k,v)],rest)
      | _ => none

end

def splitKey? (cs : List Char) : Option (String × List Char) :=
  match quoted? cs with
  | some (s,rest) => match dropGap rest with
    | ':' :: rest => if rest.head?.all isGap then some (String.ofList s,rest) else none
    | _ => none
  | none =>
    if cs.head?.any isSpecial then none else (plainKey (dropComment cs)).bind fun (k,rest) =>
      match resolve (trimGap k) with
      | .str s => some (s,rest)
      | .int n => some (toString n,rest)
      | _ => none
where
  plainKey : List Char → Option (List Char × List Char)
    | [] => none
    | [':'] => some ([],[])
    | ':' :: c :: cs =>
      if isGap c then some ([],c :: cs) else (plainKey (c :: cs)).map (fun r => (':' :: r.1,r.2))
    | c :: cs => (plainKey cs).map (fun r => (c :: r.1,r.2))

def item? (cs : List Char) : Option (List Char) :=
  match cs with
  | ['-'] => some []
  | '-' :: c :: cs => if isGap c then some (c :: cs) else none
  | _ => none

def inline (cs : List Char) : Option Json :=
  let cs := trimGap cs
  match cs with
  | c :: _ =>
    if c = '[' || c = '{' || c = '"' || c = '\'' then
      (flow cs.length cs).bind fun (v,rest) => if isIdle rest then some v else none
    else if isSpecial c then none else
      let s := trimGap (dropComment cs)
      if (splitKey? s).isSome then none else some (resolve s)
  | [] => some .null

/-- Further lines of a plain scalar, which join it with a blank. -/
def joinLines (outer : Nat) (s : List Char) : List Line → List Char × List Line
  | [] => (s,[])
  | l :: ls =>
    if outer < l.indent && !isIdle l.text && (splitKey? l.text).isNone && (item? l.text).isNone then
      joinLines outer (s ++ ' ' :: trimGap (dropComment l.text)) ls
    else (s,l :: ls)

def textBlock (outer : Nat) (ls : List Line) : List (List Char) × List Line :=
  let deep := (((ls.find? (fun l => l.text ≠ [])).map (·.indent)).getD 0)
  if deep ≤ outer then ([],ls)
  else
    let inside (l : Line) : Bool := l.text = [] || deep ≤ l.indent
    ((ls.takeWhile inside).map (fun l => List.replicate (l.indent-deep) ' '++l.text),
      ls.dropWhile inside)

def joinWith (sep : Char) : List (List Char) → List Char
  | [] => []
  | [l] => l
  | l :: ls => l++sep :: joinWith sep ls

def blockText (header : List Char) (lines : List (List Char)) : Option Json :=
  let kept := (lines.reverse.dropWhile (· = [])).reverse
  let sep := if header.head? = some '>' then ' ' else '\n'
  match header.tail with
  | [] => some (.str (String.ofList (joinWith sep kept++if kept = [] then [] else ['\n'])))
  | ['-'] => some (.str (String.ofList (joinWith sep kept)))
  | ['+'] =>
    let feeds := List.replicate (lines.length-kept.length+1) '\n'
    some (.str (String.ofList (joinWith sep kept++feeds)))
  | _ => none

mutual

/-- The node whose lines are at least so deep; nothing there is null. -/
def node : Nat → Nat → List Line → Option (Json × List Line)
  | 0,_,_ => none
  | fuel+1,least,ls =>
    match skipIdle ls with
    | [] => some (.null,[])
    | l :: rest =>
      if l.indent < least then some (.null,l :: rest)
      else if l.text.head? = some '\t' then none
      else if (item? l.text).isSome then
        (items fuel l.indent (l :: rest)).map (fun r => (.arr r.1,r.2))
      else if (splitKey? l.text).isSome then
        (fields fuel l.indent (l :: rest)).map (fun r => (.obj (Doc.lastWins r.1),r.2))
      else value fuel (least-1) l.text rest

/-- What stands behind a key or a dash, and may go on in deeper lines. -/
def value : Nat → Nat → List Char → List Line → Option (Json × List Line)
  | 0,_,_,_ => none
  | _+1,outer,cs,ls =>
    let s := trimGap cs
    match s with
    | c :: _ =>
      if c = '|' || c = '>' then
        let (lines,rest) := textBlock outer ls
        (blockText (trimGap (dropComment s)) lines).map (·,rest)
      else if isSpecial c then (inline s).map (·,ls)
      else
        let (s,rest) := joinLines outer (trimGap (dropComment s)) ls
        (inline s).map (·,rest)
    | [] => none

def items : Nat → Nat → List Line → Option (List Json × List Line)
  | 0,_,_ => none
  | fuel+1,deep,ls =>
    match skipIdle ls with
    | [] => some ([],[])
    | l :: rest =>
      if l.indent < deep then some ([],l :: rest)
      else if l.indent > deep then none
      else match item? l.text with
        | none => some ([],l :: rest)
        | some cs =>
          let inner := cs.dropWhile (· = ' ')
          let ls := if isIdle cs then rest else ⟨deep+1+(cs.length-inner.length),inner⟩ :: rest
          match node fuel (deep+1) ls with
          | some (v,rest) => (items fuel deep rest).map (fun r => (v :: r.1,r.2))
          | none => none

def fields : Nat → Nat → List Line → Option (List (String × Json) × List Line)
  | 0,_,_ => none
  | fuel+1,deep,ls =>
    match skipIdle ls with
    | [] => some ([],[])
    | l :: rest =>
      if l.indent < deep then some ([],l :: rest)
      else if l.indent > deep then none
      else match splitKey? l.text with
        | none => none
        | some (k,cs) =>
          let least :=
            if ((skipIdle rest).head?.bind (fun l => item? l.text)).isSome then deep else deep+1
          let read := if isIdle cs then node fuel least rest else value fuel deep cs rest
          match read with
          | some (v,rest) => (fields fuel deep rest).map (fun r => ((k,v) :: r.1,r.2))
          | none => none

end

def isMark (mark : List Char) (l : Line) : Bool :=
  l.indent = 0 && mark.isPrefixOf l.text && (l.text.drop 3).head?.all isGap

def startMark : List Char := ['-','-','-']
def endMark : List Char := ['.','.','.']

def splitLines (cs : List Char) : List Line :=
  (Text.splitAll (· = '\n') cs).map (fun l => Line.ofText (Text.dropReturn l))

/-- One document; an empty text is an empty object. -/
def read? (cs : List Char) : Option Json :=
  let ls := skipIdle (splitLines cs)
  match ls with
  | [] => some (.obj [])
  | l :: rest =>
    let ls := if isMark startMark l then ⟨3,l.text.drop 3⟩ :: rest else ls
    let body := ls.takeWhile (fun l => !isMark endMark l)
    if body.any (isMark startMark) then none
    else match node (cs.length+2*ls.length+4) 0 body with
      | some (v,rest) => if skipIdle rest = [] then some v else none
      | none => none

end HostMeter.Yaml
