import HostMeter.Number.Shortest
set_option autoImplicit false

/-! Values of the interchange format and their compact text. Fields keep the order they were given. -/

namespace HostMeter

inductive Json where
  | null
  | bool (b : Bool)
  | int (n : Int)
  | float (x : Binary64)
  | str (s : String)
  | arr (items : List Json)
  | obj (fields : List (String × Json))
  deriving Repr, BEq, Inhabited

namespace Json

def nat (n : Nat) : Json := .int n
def strs (ss : List String) : Json := .arr (ss.map .str)
def opt {α : Type} (f : α → Json) : Option α → Json
  | none => .null
  | some a => f a

def hexDigit (n : Nat) : Char := (Nat.digitChar (n%16))

def escapeChar (c : Char) : List Char :=
  if c = '"' then ['\\','"']
  else if c = '\\' then ['\\','\\']
  else if c = '\n' then ['\\','n']
  else if c = '\r' then ['\\','r']
  else if c = '\t' then ['\\','t']
  else if c = '\x08' then ['\\','b']
  else if c = '\x0c' then ['\\','f']
  else if c.toNat < 0x20 then ['\\','u','0','0',hexDigit (c.toNat/16),hexDigit c.toNat]
  else [c]

def wireText (s : String) : List Char := '"' :: (s.toList.flatMap escapeChar++['"'])

/-- Numbers that are not finite have no text of their own and become null. -/
def wireFloat (x : Binary64) : List Char :=
  (if x.isFinite then x.documentText else "null").toList

mutual

def wire : Json → List Char
  | .null => "null".toList
  | .bool b => (if b then "true" else "false").toList
  | .int n => (toString n).toList
  | .float x => wireFloat x
  | .str s => wireText s
  | .arr items => '[' :: (wireItems items++[']'])
  | .obj fields => '{' :: (wireFields fields++['}'])

def wireItems : List Json → List Char
  | [] => []
  | [v] => v.wire
  | v :: vs => v.wire ++ ',' :: wireItems vs

def wireFields : List (String × Json) → List Char
  | [] => []
  | [(k,v)] => wireText k ++ ':' :: v.wire
  | (k,v) :: fs => wireText k ++ ':' :: (v.wire ++ ',' :: wireFields fs)

end

def text (v : Json) : String := String.ofList v.wire

def insertField (f : String × Json) : List (String × Json) → List (String × Json)
  | [] => [f]
  | g :: gs => if g.1 < f.1 then g :: insertField f gs else f :: g :: gs

mutual

def sorted : Json → Json
  | .arr items => .arr (sortedItems items)
  | .obj fields => .obj (sortedFields fields)
  | v => v

def sortedItems : List Json → List Json
  | [] => []
  | v :: vs => v.sorted :: sortedItems vs

def sortedFields : List (String × Json) → List (String × Json)
  | [] => []
  | (k,v) :: fs => insertField (k,v.sorted) (sortedFields fs)

end

def field? (k : String) : Json → Option Json
  | .obj fields => (fields.find? (·.1 == k)).map (·.2)
  | _ => none

example : (Json.obj [("a",.arr [.int 1,.null]),("b\n",.bool true)]).text =
    "\x7b\"a\":[1,null],\"b\\n\":true\x7d" := by decide +kernel

end Json

end HostMeter
