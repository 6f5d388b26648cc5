import HostMeter.Json.Value
import HostMeter.Number.Literal
import HostMeter.Text.Lower
set_option autoImplicit false

/-! Settings as a tree. Sources are laid over each other: a value takes the place of an older one,
and a group is merged into an older group member by member. Names of members are in small letters. -/

namespace HostMeter

/-- A setting and, where one source gave it as a whole, which. -/
inductive Setting where
  | plain (origin : Option String) (v : Json)
  | list (origin : Option String) (items : List Setting)
  | group (origin : Option String) (members : List (String × Setting))
  deriving Inhabited

namespace Setting

def origin : Setting → Option String
  | .plain o _ => o
  | .list o _ => o
  | .group o _ => o

mutual

def ofJson (origin : String) : Json → Setting
  | .arr xs => .list (some origin) (ofItems origin xs)
  | .obj fs => .group (some origin) (ofFields origin fs)
  | v => .plain (some origin) v

def ofItems (origin : String) : List Json → List Setting
  | [] => []
  | x :: xs => ofJson origin x :: ofItems origin xs

def ofFields (origin : String) : List (String × Json) → List (String × Setting)
  | [] => []
  | (k,v) :: fs => (k,ofJson origin v) :: ofFields origin fs

end

def absent : Setting := .plain none .null

def empty : Setting := .group none []

def member? (k : String) (ms : List (String × Setting)) : Option Setting :=
  (ms.find? (·.1 == k)).map (·.2)

def alter (k : String) (f : Option Setting → Setting) :
    List (String × Setting) → List (String × Setting)
  | [] => [(k,f none)]
  | (n,v) :: ms => if n = k then (n,f (some v)) :: ms else (n,v) :: alter k f ms

/-- Changes a member of a group; what is no group becomes one. -/
def within (name : String) (f : Option Setting → Setting) : Setting → Setting
  | .group o ms => .group o (alter (Text.lower name) f ms)
  | _ => .group none [(Text.lower name,f none)]

mutual

/-- What becomes of a setting when a newer one is laid over it. -/
def merged (old : Option Setting) : Setting → Setting
  | .group _ ms => mergedAll ms (old.getD empty)
  | v => v

def mergedAll : List (String × Setting) → Setting → Setting
  | [],s => s
  | (k,v) :: ms,s => mergedAll ms (within k (fun old => merged old v) s)

end

/-- A step down the tree: to a member, or to an item of a list, counted from the end if negative. -/
inductive Step
  | member (name : String)
  | item (i : Int)
  deriving DecidableEq, Repr

def index (i : Int) (length : Nat) : Nat := if 0 ≤ i then i.toNat else length-i.natAbs

/-- Changes an item of a list, which grows as far as that item needs. -/
def alterItem (i : Int) (f : Setting → Setting) (s : Setting) : Setting :=
  let (o,xs) := match s with
    | .list o xs => (o,xs)
    | _ => (none,[])
  let k := index i xs.length
  let xs := xs++List.replicate (k+1-xs.length) absent
  .list o (xs.modify k f)

def putAt (new : Setting) : List Step → Option Setting → Setting
  | [],old => merged old new
  | .member k :: rest,old => within k (putAt new rest) (old.getD absent)
  | [.item i],old => alterItem i (fun _ => new) (old.getD absent)
  | .item i :: rest,old => alterItem i (fun s => putAt new rest (some s)) (old.getD absent)

def isPlain (c : Char) : Bool := c.isAlphanum || c = '_' || c = '-' || c = ' '

def readName? (cs : List Char) : Option (String × List Char) :=
  match cs.takeWhile isPlain with
  | [] => none
  | name => some (String.ofList name,cs.dropWhile isPlain)

def trimSpaces (cs : List Char) : List Char :=
  ((cs.dropWhile (· = ' ')).reverse.dropWhile (· = ' ')).reverse

def readIndex? (cs : List Char) : Option Int :=
  match trimSpaces cs with
  | '-' :: ds => (readDigits ds).map (fun n => -(n : Int))
  | ds => (readDigits ds).map (fun n => (n : Int))

def readSteps? : Nat → List Char → Option (List Step)
  | _,[] => some []
  | fuel+1,'.' :: cs => do
    let (name,rest) ← readName? cs
    pure (.member name :: (← readSteps? fuel rest))
  | fuel+1,'[' :: cs => do
    let i ← readIndex? (cs.takeWhile (· ≠ ']'))
    match cs.dropWhile (· ≠ ']') with
    | _ :: rest => pure (.item i :: (← readSteps? fuel rest))
    | [] => none
  | _,_ => none

/-- A name that does not read as a path is one step by itself. -/
def steps (key : String) : List Step :=
  let cs := key.toList
  ((readName? cs).bind fun (name,rest) =>
    (readSteps? rest.length rest).map (.member name :: ·)).getD [.member key]

/-- Lays the entries of a source over a tree, each at the place its key names. -/
def lay (entries : List (String × Setting)) (s : Setting) : Setting :=
  entries.foldl (fun s e => putAt e.2 (steps e.1) (some s)) s

example : readSteps? 9 ['.','a','-','b','[','-','1',']'] = some [.member "a-b",.item (-1)] := by
  decide +kernel

end Setting

end HostMeter
