import HostMeter.FileTree
import HostMeter.Settings.Toml
import HostMeter.Settings.Tree
import HostMeter.Settings.Yaml
set_option autoImplicit false

/-! Where settings come from: a file in the format its name tells, and environment variables, whose
names spell the place of a setting. -/

namespace HostMeter

structure Surroundings where
  files : FileTree
  home : Path := []
  env : List (String × String) := []

namespace Surroundings

def var? (s : Surroundings) (name : String) : Option String :=
  (s.env.find? (·.1 == name)).map (·.2)

def fullName (s : Surroundings) (name : String) : String :=
  if name.startsWith "/" then name else s.home.text++"/"++name

def path (s : Surroundings) (name : String) : Path := Path.ofText (s.fullName name)

def isFile (s : Surroundings) (p : Path) : Bool :=
  match s.files.at? p with
  | .ok (.file _) => true
  | _ => false

/-- The way from one directory to a place, up as far as the two part. -/
def wayTo : Path → Path → Path
  | a :: as,b :: bs => if a = b then wayTo as bs else List.replicate (as.length+1) ".."++b :: bs
  | as,bs => List.replicate as.length ".."++bs

def nameFrom (s : Surroundings) (p : Path) : String := "/".intercalate (wayTo s.home p)

end Surroundings

inductive SourceError
  | missing (name : String)
  | unknownFormat (name : String)
  | malformed
  deriving DecidableEq, Repr

def SourceError.message : SourceError → String
  | .missing name => "configuration file \""++name++"\" not found"
  | .unknownFormat name =>
    "configuration file \""++name++"\" is not of a registered file format"
  | .malformed => "syntax"

namespace Setting

inductive Format
  | json
  | yaml
  | toml
  /-- A known format that nothing is read from. -/
  | closed
  deriving DecidableEq, Repr

def extensions : List (String × Format) :=
  [("json",.json),("yaml",.yaml),("yml",.yaml),("toml",.toml),("ini",.closed),("ron",.closed),
   ("json5",.closed)]

/-- What stands behind the last point of a name, unless it begins the name. -/
def extension? (name : String) : Option String :=
  match (name.splitOn ".").reverse with
  | e :: rest => if rest.any (· ≠ "") then some e else none
  | [] => none

def formatOf? (p : Path) : Option Format :=
  (p.getLast?.bind extension?).bind fun e => (extensions.find? (·.1 == e)).map (·.2)

def nestingLimit : Nat := 128

def readJson? (cs : List Char) : Option Json :=
  match Doc.read (String.ofList cs) with
  | (d,none) => if (d.keeping nestingLimit).isNone then d.toJson? else none
  | (_,some _) => none

def Format.read? : Format → List Char → Option Json
  | .json => readJson?
  | .yaml => Yaml.read?
  | .toml => Toml.read?
  | .closed => fun _ => none

def dropMark : Bytes → Bytes
  | 0xEF :: 0xBB :: 0xBF :: bs => bs
  | bs => bs

/-- The file of a name, or one whose name only lacks an extension, with its format. -/
def locate (s : Surroundings) (name : String) : Except SourceError (Path × Format) :=
  let p := s.path name
  if s.isFile p then
    match formatOf? p with
    | some f => .ok (p,f)
    | none => .error (.unknownFormat (s.fullName name))
  else
    match extensions.find? (fun e => s.isFile (s.path (name++"."++e.1))) with
    | some e => .ok (s.path (name++"."++e.1),e.2)
    | none => .error (.missing name)

def fileEntries (s : Surroundings) (name : String) : Except SourceError (List (String × Setting)) := do
  let (p,format) ← locate s name
  match s.files.readBytes p with
  | .error _ => .error .malformed
  | .ok bs =>
    match format.read? (Utf8.decodeLossy (dropMark bs)) with
    | some (.obj fs) => .ok (ofFields (s.nameFrom p) fs)
    | _ => .error .malformed

/-- The value of a variable: a truth value, a number, or text in small letters. -/
def ofVariable (text : String) : Json :=
  let s := Text.lower text
  match s with
  | "true" => .bool true
  | "false" => .bool false
  | _ => match readSigned s.toList with
    | some n => .int n
    | none => match Binary64.ofText? s.toList with
      | some x => .float x
      | none => .str s

def environment : String := "the environment"

/-- Variables that begin with `head`; two underscores lead one level down. -/
def variableEntries (head : String) (env : List (String × String)) : List (String × Setting) :=
  env.filterMap fun (name,text) =>
    (Text.dropHead? head.toList (Text.lower name).toList).map fun rest =>
      ((String.ofList rest).replace "__" ".",.plain (some environment) (ofVariable text))

end Setting

end HostMeter
