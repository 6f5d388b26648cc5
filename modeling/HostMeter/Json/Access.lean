import HostMeter.Json.Document
import HostMeter.Number.Limits
import HostMeter.Text.Utf8
set_option autoImplicit false

/-! Short ways to the fields of an object, with defaults for those that are absent or of another
type. -/

namespace HostMeter.Json

def get (j : Json) (k : String) : Json := (j.field? k).getD .null
def has (j : Json) (k : String) : Bool := j.get k != .null

def str? : Json → Option String
  | .str s => some s
  | _ => none

def items? : Json → Option (List Json)
  | .arr xs => some xs
  | _ => none

def int? : Json → Option Int
  | .int n => some n
  | _ => none

def fields : Json → List (String × Json)
  | .obj fs => fs
  | _ => []

def strOf (j : Json) (k : String) (absent : String := "") : String := (j.get k).str?.getD absent

def flagOf (j : Json) (k : String) (absent : Bool := false) : Bool :=
  match j.get k with
  | .bool b => b
  | _ => absent

/-- A number in a field of that name; a fraction is cut off. -/
def natOf (j : Json) (k : String) (absent : Nat := 0) : Nat :=
  match j.get k with
  | .int n => n.toNat
  | .float x => x.toNatWithin limit64
  | _ => absent

def doubleOf (j : Json) (k : String) : Binary64 :=
  match j.get k with
  | .int n => .ofInt n
  | .float x => x
  | _ => .zero false

def itemsOf (j : Json) (k : String) : List Json := (j.get k).items?.getD []
def strsOf (j : Json) (k : String) : List String := (j.itemsOf k).filterMap str?

def textFields (j : Json) : List (String × String) :=
  j.fields.filterMap (fun f => f.2.str?.map (f.1,·))

mutual

/-- Changes the values of all fields at every depth, the inner ones first. -/
def mapFields (f : String → Json → Json) : Json → Json
  | .arr xs => .arr (mapItems f xs)
  | .obj fs => .obj (mapEntries f fs)
  | v => v

def mapItems (f : String → Json → Json) : List Json → List Json
  | [] => []
  | x :: xs => mapFields f x :: mapItems f xs

def mapEntries (f : String → Json → Json) : List (String × Json) → List (String × Json)
  | [] => []
  | (k,v) :: fs => (k,f k (mapFields f v)) :: mapEntries f fs

end

def hexBytes : List Char → Bytes
  | a :: b :: rest =>
    UInt8.ofNat ((Doc.hexValue? a).getD 0*16+(Doc.hexValue? b).getD 0) :: hexBytes rest
  | _ => []

/-- Bytes given as text, or in hexadecimal under the key `hex`. -/
def bytes : Json → Bytes
  | .str s => Utf8.encode s
  | j => hexBytes (j.strOf "hex").toList

end HostMeter.Json
