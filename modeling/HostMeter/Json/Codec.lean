import HostMeter.Json.Document
import HostMeter.Number.Limits
import HostMeter.Table
import HostMeter.Text.Quoted
set_option autoImplicit false

/-! Codecs pair the writing of a type with its reading, and a record is a list of slots. A reader
meets the parts of a document in their order and stops at the first thing wrong. -/

namespace HostMeter

inductive Found
  | null
  | boolean (b : Bool)
  | integer (n : Int)
  | floating (x : Binary64)
  | text (s : String)
  | sequence
  | map
  deriving DecidableEq, Repr

inductive DecodeError
  | unreadable (f : Fault)
  | invalidType (found : Found) (expected : String)
  | invalidValue (found : Found) (expected : String)
  | invalidLength (length : Nat) (expected : String)
  | missingField (name : String)
  | duplicateField (name : String)
  | unknownVariant (name : String) (known : List String)
  | noVariant (type : String)
  deriving DecidableEq, Repr

def ticked (s : String) : String := "`"++s++"`"

def Found.describe : Found → String
  | .null => "null"
  | .boolean b => "boolean "++ticked (if b then "true" else "false")
  | .integer n => "integer "++ticked (toString n)
  | .floating x => "floating point "++ticked x.documentText
  | .text s => "string "++Text.quoted s
  | .sequence => "sequence"
  | .map => "map"

/-- Names of alternatives: one alone, two with `or`, more as a list. -/
def oneOf : List String → String
  | [] => "there are no variants"
  | [a] => "expected "++ticked a
  | [a,b] => "expected "++ticked a++" or "++ticked b
  | names => "expected one of "++", ".intercalate (names.map ticked)

def DecodeError.message : DecodeError → String
  | .unreadable _ => ""
  | .invalidType found expected => "invalid type: "++found.describe++", expected "++expected
  | .invalidValue found expected => "invalid value: "++found.describe++", expected "++expected
  | .invalidLength n expected => "invalid length "++toString n++", expected "++expected
  | .missingField name => "missing field "++ticked name
  | .duplicateField name => "duplicate field "++ticked name
  | .unknownVariant name known => "unknown variant "++ticked name++", "++oneOf known
  | .noVariant type => "data did not match any variant of untagged enum "++type

/-- Where a document comes from: a parsed value, or running text with room for so many levels. -/
inductive Origin
  | value
  | text (depth : Nat)
  deriving DecidableEq, Repr

namespace Origin

def enter : Origin → Except DecodeError Origin
  | .value => .ok .value
  | .text depth => if depth ≤ 1 then .error (.unreadable .malformed) else .ok (.text (depth-1))

def isText : Origin → Bool
  | .value => false
  | .text _ => true

end Origin

abbrev Decoded (α : Type) := Except DecodeError α

structure Codec (α : Type) where
  write : α → Json
  read : Origin → Doc → Decoded α

def found : Doc → Except Fault Found
  | .null => .ok .null
  | .bool b => .ok (.boolean b)
  | .int n => .ok (.integer n)
  | .float x => .ok (.floating x)
  | .str s => .ok (.text s)
  | .seq _ _ => .ok .sequence
  | .map _ _ => .ok .map
  | .keyless _ => .ok .map
  | .cut _ => .error .truncated
  | .flawed wanted _ => .error wanted

def mismatch {α : Type} (expected : String) (d : Doc) : Decoded α :=
  match found d with
  | .ok f => .error (.invalidType f expected)
  | .error f => .error (.unreadable f)

def stopped {α : Type} (stop : Option Fault) (a : α) : Decoded α :=
  match stop with
  | none => .ok a
  | some f => .error (.unreadable f)

namespace Codec

variable {α β : Type}

def text : Codec String where
  write := .str
  read _ d := match d with
    | .str s => .ok s
    | d => mismatch "a string" d

def bool : Codec Bool where
  write := .bool
  read _ d := match d with
    | .bool b => .ok b
    | d => mismatch "a boolean" d

/-- An integer between two bounds; `name` is its type in messages. -/
def readInt (name : String) (low high : Int) (d : Doc) : Decoded Int :=
  match d with
  | .int n => if low ≤ n ∧ n ≤ high then .ok n else .error (.invalidValue (.integer n) name)
  | d => mismatch name d

def word32 : Codec UInt32 where
  write n := .nat n.toNat
  read _ d := (readInt "u32" 0 (limit32-1) d).map (fun n => UInt32.ofNat n.toNat)

def word64 : Codec UInt64 where
  write n := .nat n.toNat
  read _ d := (readInt "u64" 0 (limit64-1) d).map (fun n => UInt64.ofNat n.toNat)

def int64 : Codec Int64 where
  write n := .int n.toInt
  read _ d := (readInt "i64" (-limit63) (limit63-1) d).map Int64.ofInt

/-- Whole numbers are taken for doubles as well. -/
def double : Codec Binary64 where
  write x := if x.isFinite then .float x else .null
  read _ d := match d with
    | .float x => .ok x
    | .int n => .ok (Binary64.ofInt n)
    | d => mismatch "f64" d

def option (c : Codec α) : Codec (Option α) where
  write a := match a with
    | none => .null
    | some a => c.write a
  read o d := match d with
    | .null => .ok none
    | d => (c.read o d).map some

def readItems (read : Doc → Decoded α) : List Doc → Decoded (List α)
  | [] => .ok []
  | d :: ds => (read d).bind (fun a => (readItems read ds).map (a :: ·))

def list (c : Codec α) : Codec (List α) where
  write as := .arr (as.map c.write)
  read o d := match d with
    | .seq items stop => do
      let o ← o.enter
      let as ← readItems (c.read o) items
      stopped stop as
    | d => mismatch "a sequence" d

def readEntries (read : Doc → Decoded α) (t : Table α) :
    List (Except Fault String × Doc) → Decoded (Table α)
  | [] => .ok t
  | (.error f,_) :: _ => .error (.unreadable f)
  | (.ok k,d) :: fs => (read d).bind (fun a => readEntries read (t.insert k a) fs)

/-- Any names at all; the last of equal ones wins. -/
def table (c : Codec α) : Codec (Table α) where
  write t := .obj (t.entries.map (fun e => (e.1,c.write e.2)))
  read o d := match d with
    | .map fields stop => do
      let o ← o.enter
      let t ← readEntries (c.read o) .empty fields
      stopped stop t
    | .keyless _ => (o.enter).bind (fun _ => .error (.unreadable .malformed))
    | d => mismatch "a map" d

def mapped (c : Codec α) (out : β → α) (into : α → β) : Codec β where
  write b := c.write (out b)
  read o d := (c.read o d).map into

def variant (known : List (String × α)) (name : String) : Decoded α :=
  match known.find? (·.1 == name) with
  | some e => .ok e.2
  | none => .error (.unknownVariant name (known.map (·.1)))

def readUnit (d : Doc) : Decoded Unit :=
  match d with
  | .null => .ok ()
  | d => mismatch "unit" d

/-- One of a few names, alone or as the only key of an object that maps it to null. In running text
anything else is malformed; in a value it is of the wrong type. -/
def oneOf (known : List (String × α)) (nameOf : α → String) : Codec α where
  write a := .str (nameOf a)
  read o d := match d with
    | .str s => variant known s
    | .map fields stop =>
      if o.isText then do
        let _ ← o.enter
        match fields with
        | [] => .error (.unreadable (stop.getD .malformed))
        | (.error f,_) :: _ => .error (.unreadable f)
        | (.ok k,d) :: more => do
          let a ← variant known k
          readUnit d
          if more = [] then stopped stop a else .error (.unreadable .malformed)
      else match fields with
        | [(.ok k,d)] => do
          let a ← variant known k
          readUnit d
          stopped stop a
        | _ => .error (.invalidValue .map "map with a single key")
    | .keyless first => (o.enter).bind (fun _ => mismatch "variant identifier" first)
    | .flawed wanted _ => .error (.unreadable wanted)
    | d => if o.isText then .error (.unreadable .malformed) else mismatch "string or map" d

end Codec

/-- A named part of a record. `absent` stands in where an object lacks the field, `short` where an
array ends before it; `isOmitted` says when the field is not written. -/
structure Slot (α : Type) where
  name : String
  codec : Codec α
  absent : Option α
  short : Option α
  isOmitted : α → Bool

namespace Slot

variable {α : Type}

def required (name : String) (c : Codec α) : Slot α := ⟨name,c,none,none,fun _ => false⟩
def defaulted (name : String) (c : Codec α) (a : α) : Slot α :=
  ⟨name,c,some a,some a,fun _ => false⟩

def optional (name : String) (c : Codec α) : Slot (Option α) :=
  ⟨name,c.option,some none,some none,Option.isNone⟩

def nullable (name : String) (c : Codec α) : Slot (Option α) :=
  ⟨name,c.option,some none,some none,fun _ => false⟩

/-- Left out like an optional field, but an array has to hold its place. -/
def placed (name : String) (c : Codec α) : Slot (Option α) :=
  ⟨name,c.option,some none,none,Option.isNone⟩

def listing (name : String) (c : Codec α) : Slot (List α) :=
  ⟨name,c.list,some [],some [],List.isEmpty⟩

end Slot

/-- The slots of a record of parts `γ`, and `δ` for the parts found so far. -/
inductive Slots : Type → Type → Type 1 where
  | done : Slots Unit Unit
  | more {α γ δ : Type} (slot : Slot α) (rest : Slots γ δ) : Slots (α × γ) (Option α × δ)

namespace Slots

def count {γ δ : Type} : Slots γ δ → Nat
  | .done => 0
  | .more _ rest => rest.count+1

def blank {γ δ : Type} : Slots γ δ → δ
  | .done => ()
  | .more _ rest => (none,rest.blank)

def fill {γ δ : Type} (o : Origin) (key : String) (d : Doc) : Slots γ δ → δ → Decoded (Option δ)
  | .done,_ => .ok none
  | .more slot rest,(a,draft) =>
    if key = slot.name then
      match a with
      | some _ => .error (.duplicateField slot.name)
      | none => (slot.codec.read o d).map (fun a => some (some a,draft))
    else (rest.fill o key d draft).map (fun r => r.map (fun draft => (a,draft)))

def finish {γ δ : Type} : Slots γ δ → δ → Decoded γ
  | .done,_ => .ok ()
  | .more slot rest,(a,draft) =>
    match a.or slot.absent with
    | none => .error (.missingField slot.name)
    | some a => (rest.finish draft).map (fun r => (a,r))

/-- Reads the fields of an object, passing over those without a slot. -/
def readFields {γ δ : Type} (ss : Slots γ δ) (o : Origin) (draft : δ) :
    List (Except Fault String × Doc) → Decoded δ
  | [] => .ok draft
  | (.error f,_) :: _ => .error (.unreadable f)
  | (.ok k,d) :: fs =>
    match ss.fill o k d draft with
    | .error e => .error e
    | .ok (some draft) => ss.readFields o draft fs
    | .ok none =>
      match d.passing with
      | some f => .error (.unreadable f)
      | none => ss.readFields o draft fs

/-- Reads the items of an array into the slots in order; what is left over comes back too. -/
def readItems {γ δ : Type} (o : Origin) (expected : String) :
    Slots γ δ → Nat → List Doc → Option Fault → Decoded (γ × List Doc)
  | .done,_,ds,_ => .ok ((),ds)
  | .more slot rest,i,d :: ds,stop => do
    let a ← slot.codec.read o d
    let (r,left) ← rest.readItems o expected (i+1) ds stop
    pure ((a,r),left)
  | .more slot rest,i,[],stop =>
    match stop,slot.short with
    | some f,_ => .error (.unreadable f)
    | none,none => .error (.invalidLength i expected)
    | none,some a => (rest.readItems o expected (i+1) [] none).map (fun r => ((a,r.1),r.2))

def write {γ δ : Type} : Slots γ δ → γ → List (String × Json)
  | .done,_ => []
  | .more slot rest,(a,r) =>
    if slot.isOmitted a then rest.write r else (slot.name,slot.codec.write a) :: rest.write r

end Slots

def elements (n : Nat) : String := toString n++(if n = 1 then " element" else " elements")

/-- A record is an object of its fields, or an array of them in the order of the slots. -/
def Codec.record {α γ δ : Type} (name : String) (ss : Slots γ δ) (out : α → γ) (into : γ → α) :
    Codec α where
  write a := .obj (ss.write (out a))
  read o d := match d with
    | .map fields stop => do
      let o ← o.enter
      let draft ← ss.readFields o ss.blank fields
      let () ← stopped stop ()
      (ss.finish draft).map into
    | .seq items stop => do
      let inner ← o.enter
      let expected := "struct "++name++" with "++elements ss.count
      let (r,left) ← ss.readItems inner expected 0 items stop
      if left = [] then stopped stop (into r)
      else if o.isText then .error (.unreadable .malformed)
      else .error (.invalidLength items.length "fewer elements in array")
    | .keyless _ => (o.enter).bind (fun _ => .error (.unreadable .malformed))
    | d => mismatch ("struct "++name) d

/-- A document without a tag: the first type that can read it has it. -/
def Codec.either {α β : Type} (name : String) (a : Codec α) (b : Codec β) : Codec (α ⊕ β) where
  write s := match s with
    | .inl x => a.write x
    | .inr y => b.write y
  read o d :=
    let flaw := match o with
      | .value => d.keeping limit64
      | .text depth => d.keeping depth
    match flaw with
    | some f => .error (.unreadable f)
    | none =>
      match a.read .value d with
      | .ok x => .ok (.inl x)
      | .error _ =>
        match b.read .value d with
        | .ok y => .ok (.inr y)
        | .error _ => .error (.noVariant name)

namespace Codec

def ofJson {α : Type} (c : Codec α) (v : Json) : Decoded α := c.read .value (.ofJson v)

def textDepth : Nat := 128

def ofText {α : Type} (c : Codec α) (s : String) : Decoded α := do
  let (d,after) := Doc.read s
  let a ← c.read (.text textDepth) d
  stopped after a

end Codec

end HostMeter
