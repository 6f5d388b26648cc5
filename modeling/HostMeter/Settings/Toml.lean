import HostMeter.Json.Document
import HostMeter.Number.Limits
import HostMeter.Number.Literal
import HostMeter.Text.Blank
set_option autoImplicit false

/-! Settings as tables of keys and values: dotted keys, tables by their headers, lists of tables, and
values with a type of their own. A key is given once. Points in time are kept as texts. -/

namespace HostMeter.Toml

def isGap (c : Char) : Bool := c = ' ' || c = '\t'
def dropGap (cs : List Char) : List Char := cs.dropWhile isGap

def dropComment (cs : List Char) : List Char :=
  match cs with
  | '#' :: _ => cs.dropWhile (· ≠ '\n')
  | cs => cs

def dropIdle : Nat → List Char → List Char
  | 0,cs => cs
  | fuel+1,cs =>
    match cs.dropWhile (fun c => isGap c || c = '\n') with
    | '\r' :: '\n' :: cs => dropIdle fuel cs
    | '#' :: cs => dropIdle fuel (cs.dropWhile (· ≠ '\n'))
    | cs => cs

/-- Nothing may follow on the line but a comment. -/
def endLine? (cs : List Char) : Option (List Char) :=
  match dropComment (dropGap cs) with
  | [] => some []
  | '\n' :: rest => some rest
  | '\r' :: '\n' :: rest => some rest
  | _ => none

def simpleEscape? (c : Char) : Option Char :=
  (([('b','\x08'),('t','\t'),('n','\n'),('f','\x0c'),('r','\r'),('"','"'),('\\','\\')]
    : List (Char × Char)).find? (·.1 = c)).map (·.2)

def scalarValue? (n : Nat) : Option Char := if n.isValidChar then some (Char.ofNat n) else none

def consTo (c : Char) (r : Option (List Char × List Char)) :
    Option (List Char × List Char) := r.map (fun r => (c :: r.1,r.2))

def basic (long : Bool) : List Char → Option (List Char × List Char)
  | '"' :: cs =>
    if long then match cs with
      | '"' :: '"' :: rest => some ([],rest)
      | cs => consTo '"' (basic long cs)
    else some ([],cs)
  | '\\' :: 'u' :: a :: b :: c :: d :: cs => do
    consTo (← scalarValue? (← Doc.hexUnit? a b c d)) (basic long cs)
  | '\\' :: 'U' :: a :: b :: c :: d :: e :: f :: g :: h :: cs => do
    let n := (← Doc.hexUnit? a b c d)*65536+(← Doc.hexUnit? e f g h)
    consTo (← scalarValue? n) (basic long cs)
  | '\\' :: c :: cs => do
    consTo (← simpleEscape? c) (basic long cs)
  | c :: cs => if c = '\n' && !long then none else consTo c (basic long cs)
  | [] => none

def literal (long : Bool) : List Char → Option (List Char × List Char)
  | '\'' :: cs =>
    if long then match cs with
      | '\'' :: '\'' :: rest => some ([],rest)
      | cs => consTo '\'' (literal long cs)
    else some ([],cs)
  | c :: cs => if c = '\n' && !long then none else consTo c (literal long cs)
  | [] => none

/-- A line end right behind the opening quotes is not part of the text. -/
def dropFirstEnd : List Char → List Char
  | '\n' :: cs => cs
  | '\r' :: '\n' :: cs => cs
  | cs => cs

def quoted? (cs : List Char) : Option (List Char × List Char) :=
  match cs with
  | '"' :: '"' :: '"' :: cs => basic true (dropFirstEnd cs)
  | '\'' :: '\'' :: '\'' :: cs => literal true (dropFirstEnd cs)
  | '"' :: cs => basic false cs
  | '\'' :: cs => literal false cs
  | _ => none

def isBare (c : Char) : Bool := c.isAlphanum || c = '_' || c = '-'

def key? (cs : List Char) : Option (String × List Char) :=
  match cs with
  | '"' :: rest => (basic false rest).map (fun r => (String.ofList r.1,r.2))
  | '\'' :: rest => (literal false rest).map (fun r => (String.ofList r.1,r.2))
  | cs =>
    let k := cs.takeWhile isBare
    if k = [] then none else some (String.ofList k,cs.dropWhile isBare)

def dotted : Nat → List Char → Option (List String × List Char)
  | 0,_ => none
  | fuel+1,cs => do
    let (k,rest) ← key? (dropGap cs)
    match dropGap rest with
    | '.' :: rest => (dotted fuel rest).map (fun r => (k :: r.1,r.2))
    | rest => some ([k],rest)

/-- Underscores stand between digits only. -/
def dropUnderscores? : List Char → Option (List Char)
  | [] => some []
  | [c] => if c = '_' then none else some [c]
  | a :: '_' :: b :: cs =>
    if a.isAlphanum && b.isAlphanum then (dropUnderscores? (b :: cs)).map (a :: ·) else none
  | c :: cs => if c = '_' then none else (dropUnderscores? cs).map (c :: ·)
termination_by cs => cs.length

def based? (b : Nat) (ds : List Char) : Option Int :=
  let digit (c : Char) : Option Nat := (Doc.hexValue? c).filter (· < b)
  if ds = [] then none
  else (ds.foldl (fun n c => n.bind fun n => (digit c).map (b*n+·)) (some 0)).bind fun n =>
    if n < limit63 then some n else none

def unsigned (cs : List Char) : List Char := (Literal.splitSign cs).2

/-- A number has no zero before its first other digit. -/
def isTidy (ds : List Char) : Bool :=
  match ds with
  | '0' :: d :: _ => !d.isDigit
  | _ => true

def isPointed (cs : List Char) : Bool :=
  let rest := cs.dropWhile Char.isDigit
  match rest with
  | '.' :: d :: _ => cs.head?.any Char.isDigit && d.isDigit
  | c :: _ => cs.head?.any Char.isDigit && (c = 'e' || c = 'E')
  | [] => false

def number? (cs : List Char) : Option Json :=
  match cs with
  | '0' :: 'x' :: ds => (based? 16 ds).map .int
  | '0' :: 'o' :: ds => (based? 8 ds).map .int
  | '0' :: 'b' :: ds => (based? 2 ds).map .int
  | cs =>
    let ds := unsigned cs
    if ds = ['i','n','f'] || ds = ['n','a','n'] then (Binary64.ofText? cs).map .float
    else if !isTidy ds then none
    else if ds.all Char.isDigit then (readSigned cs).map .int
    else if isPointed ds then (Binary64.ofText? cs).map .float
    else none

/-- Four digits and a dash, or two digits and a colon. -/
def isMoment (cs : List Char) : Bool :=
  let ds := cs.takeWhile Char.isDigit
  (ds.length = 4 && (cs.drop 4).head? = some '-') || (ds.length = 2 && (cs.drop 2).head? = some ':')

def isWordChar (c : Char) : Bool := c.isAlphanum || ['_','+','-','.',':'].contains c

def word? (cs : List Char) : Option Json :=
  match String.ofList cs with
  | "true" => some (.bool true)
  | "false" => some (.bool false)
  | s => if isMoment cs then some (.str s) else (dropUnderscores? cs).bind number?

/-- Puts a value at a path, into the last of a list of tables; nothing is put there twice. -/
def insertAt (v : Json) : List String → Json → Option Json
  | [],_ => none
  | [k],.obj fs => if fs.any (·.1 == k) then none else some (.obj (fs++[(k,v)]))
  | k :: rest,.obj fs =>
    match fs.find? (·.1 == k) with
    | none => (insertAt v rest (.obj [])).map (fun t => .obj (fs++[(k,t)]))
    | some (_,.arr ts) => do
      let t ← insertAt v rest (← ts.getLast?)
      pure (.obj (fs.map (fun f => if f.1 == k then (k,.arr (ts.dropLast++[t])) else f)))
    | some (_,t) => do
      let t ← insertAt v rest t
      pure (.obj (fs.map (fun f => if f.1 == k then (k,t) else f)))
  | _,_ => none

def lookup? : List String → Json → Option Json
  | [],v => some v
  | k :: rest,.obj fs => (fs.find? (·.1 == k)).bind fun f => match f.2 with
    | .arr ts => if rest = [] then some (.arr ts) else ts.getLast?.bind (lookup? rest)
    | v => lookup? rest v
  | _,_ => none

def replaceAt (v : Json) : List String → Json → Json
  | [],_ => v
  | k :: rest,.obj fs => .obj (fs.map fun f =>
      if f.1 == k then match f.2 with
        | .arr ts => if rest = [] then (k,v) else
            (k,.arr (ts.dropLast++(ts.getLast?.map (replaceAt v rest)).toList))
        | t => (k,replaceAt v rest t)
      else f)
  | _,t => t

mutual

def value : Nat → List Char → Option (Json × List Char)
  | 0,_ => none
  | fuel+1,cs =>
    match quoted? cs with
    | some (s,rest) => some (.str (String.ofList s),rest)
    | none =>
      match cs with
      | '[' :: cs => (items fuel cs).map (fun r => (.arr r.1,r.2))
      | '{' :: cs => if (dropGap cs).head? = some '}' then some (.obj [],(dropGap cs).tail)
        else entries fuel (.obj []) cs
      | cs => (word? (cs.takeWhile isWordChar)).map (·,cs.dropWhile isWordChar)

def items : Nat → List Char → Option (List Json × List Char)
  | 0,_ => none
  | fuel+1,cs =>
    match dropIdle cs.length cs with
    | ']' :: rest => some ([],rest)
    | cs => do
      let (v,rest) ← value fuel cs
      match dropIdle rest.length rest with
      | ',' :: rest => (items fuel rest).map (fun r => (v :: r.1,r.2))
      | ']' :: rest => some ([v],rest)
      | _ => none

def entries : Nat → Json → List Char → Option (Json × List Char)
  | 0,_,_ => none
  | fuel+1,t,cs => do
    let (t,rest) ← entry fuel [] t cs
    match dropGap rest with
    | ',' :: rest => entries fuel t rest
    | '}' :: rest => some (t,rest)
    | _ => none

def entry : Nat → List String → Json → List Char → Option (Json × List Char)
  | 0,_,_,_ => none
  | fuel+1,table,t,cs => do
    let (k,rest) ← dotted (cs.length+1) cs
    match dropGap rest with
    | '=' :: rest =>
      let (v,rest) ← value fuel (dropGap rest)
      (insertAt v (table++k) t).map (·,rest)
    | _ => none

end

/-- A document so far: the table that entries go to, and the tables that had a header. -/
structure State where
  root : Json := .obj []
  table : List String := []
  headed : List (List String) := []

def openTable (path : List String) (s : State) : Option State := do
  if s.headed.contains path then none
  let root ← match lookup? path s.root with
    | none => insertAt (.obj []) path s.root
    | some (.obj _) => some s.root
    | some _ => none
  pure { root, table := path, headed := path :: s.headed }

/-- A new table of a list; the tables of the one before are done. -/
def openItem (path : List String) (s : State) : Option State := do
  let root ← match lookup? path s.root with
    | none => insertAt (.arr [.obj []]) path s.root
    | some (.arr ts) => some (replaceAt (.arr (ts++[.obj []])) path s.root)
    | some _ => none
  pure { root, table := path, headed := s.headed.filter (fun p => !path.isPrefixOf p) }

def lines : Nat → State → List Char → Option Json
  | 0,_,_ => none
  | fuel+1,s,cs =>
    match dropIdle cs.length cs with
    | [] => some s.root
    | '[' :: '[' :: cs => do
      let (path,rest) ← dotted (cs.length+1) cs
      match rest with
      | ']' :: ']' :: rest => lines fuel (← openItem path s) (← endLine? rest)
      | _ => none
    | '[' :: cs => do
      let (path,rest) ← dotted (cs.length+1) cs
      match rest with
      | ']' :: rest => lines fuel (← openTable path s) (← endLine? rest)
      | _ => none
    | cs => do
      let (root,rest) ← entry (2*cs.length+4) s.table s.root cs
      lines fuel { s with root } (← endLine? rest)

def read? (cs : List Char) : Option Json := lines (cs.length+1) {} cs

end HostMeter.Toml
