import HostMeter.Json.Codec
import HostMeter.Number.Limits
import HostMeter.Settings.Tree
set_option autoImplicit false

/-! Typed values out of a tree of settings. Numbers and truth values serve as texts and texts as
numbers where their words allow it. An error names the place it was met at. -/

namespace HostMeter

inductive SettingError
  | unfit (found expected : String) (place origin : Option String)
  | said (text : String)
  deriving DecidableEq, Repr

namespace SettingError

def message : SettingError → String
  | .unfit found expected place origin =>
    "invalid type: "++found++", expected "++expected
      ++((place.map (" for key "++ticked ·)).getD "")++((origin.map (" in "++·)).getD "")
  | .said text => text

/-- An index follows the name before it at once, a name after a point. -/
def join (a b : String) : String :=
  if b.isEmpty || b.startsWith "[" then a++b else a++"."++b

def under (part : String) : SettingError → SettingError
  | .unfit found expected place origin =>
    .unfit found expected (some (join part (place.getD ""))) origin
  | e => e

end SettingError

abbrev Fitted (α : Type) := Except SettingError α

namespace Setting

def pointedText (x : Binary64) : String :=
  if x.isFinite then String.ofList (Binary64.pointed x.plainText.toList) else x.plainText

def shape : Setting → String
  | .plain _ .null => "unit value"
  | .plain _ (.bool b) => (Found.boolean b).describe
  | .plain _ (.int n) => (Found.integer n).describe
  | .plain _ (.float x) => "floating point "++ticked (pointedText x)
  | .plain _ (.str s) => (Found.text s).describe
  | .plain _ (.arr _) => Found.sequence.describe
  | .plain _ (.obj _) => Found.map.describe
  | .list _ _ => Found.sequence.describe
  | .group _ _ => Found.map.describe

def unfit {α : Type} (expected : String) (s : Setting) : Fitted α :=
  .error (.unfit s.shape expected none s.origin)

def astray {α : Type} (expected : String) (s : Setting) : Fitted α :=
  .error (.said ("invalid type: "++s.shape++", expected "++expected))

def text : Setting → Fitted String
  | .plain _ (.str s) => .ok s
  | .plain _ (.bool b) => .ok (if b then "true" else "false")
  | .plain _ (.int n) => .ok (toString n)
  | .plain _ (.float x) => .ok x.plainText
  | s => s.unfit "a string"

def greatest : Nat := limit64-1

def yesWords : List String := ["true","on","yes"]
def noWords : List String := ["false","off","no"]

def word64 : Setting → Fitted UInt64
  | .plain o (.int n) =>
    if n < 0 then
      .error (.unfit ("64-bit integer "++ticked (toString n))
        "an unsigned 64 bit or less integer" none o)
    else .ok (UInt64.ofNat n.toNat)
  | .plain _ (.bool b) => .ok (if b then 1 else 0)
  | .plain _ (.float x) => .ok (UInt64.ofNat (x.nearestWithin greatest))
  | .plain o (.str s) =>
    let w := Text.lower s
    if yesWords.contains w then .ok 1
    else if noWords.contains w then .ok 0
    else match readWord64 s.toList with
      | some n => .ok n
      | none => unfit "an integer" (.plain o (.str s))
  | s => s.unfit "an integer"

def word16 (s : Setting) : Fitted UInt16 :=
  match s.word64 with
  | .ok n =>
    if n.toNat < limit16 then .ok n.toUInt16
    else .error (.unfit ("64-bit unsigned integer "++ticked (toString n))
      "an unsigned 16 bit integer" none none)
  | .error e => .error e

def optional {α : Type} (read : Setting → Fitted α) : Setting → Fitted (Option α)
  | .plain _ .null => .ok none
  | s => (read s).map some

def at? {α : Type} (part : String) (read : Setting → Fitted α) (s : Setting) : Fitted α :=
  (read s).mapError (.under part)

def texts : Setting → Fitted (Table String)
  | .group _ ms => Table.ofList <$> ms.mapM (fun m => do pure (m.1,← at? m.1 text m.2))
  | s => s.astray "a map"

/-- One of a few words, alone or as the only name in a group. -/
def choice {α : Type} (type : String) (known : List (String × α)) (s : Setting) : Fitted α :=
  let named (w : String) : Fitted α :=
    match known.find? (·.1 == w) with
    | some k => .ok k.2
    | none => .error (.said ("enum "++type++" does not have variant constructor "++w))
  match s with
  | .plain _ (.str w) => named w
  | .group _ [(w,_)] => named w
  | _ => .error (.said ("value of enum "++type++
      " should be represented by either string or table with exactly one key"))

/-- The parts of a section, by their names or by their positions. -/
inductive Parts
  | named (ms : List (String × Setting))
  | placed (xs : List Setting)

def parts (type : String) : Setting → Fitted Parts
  | .group _ ms => .ok (.named ms)
  | .list _ xs => .ok (.placed xs)
  | s => s.astray ("struct "++type)

namespace Parts

def get {α : Type} (p : Parts) (position : Nat) (name : String) (read : Setting → Fitted α)
    (absent : α) : Fitted α :=
  match p with
  | .named ms => match member? name ms with
    | some s => at? name read s
    | none => .ok absent
  | .placed xs => match xs[position]? with
    | some s => at? ("["++toString position++"]") read s
    | none => .ok absent

end Parts

end Setting

end HostMeter
