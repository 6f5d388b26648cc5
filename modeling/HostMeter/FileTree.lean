import HostMeter.Text.Utf8
set_option autoImplicit false

/-! Trees of files, as far as reading the state of a host needs them: files with bytes, directories
in the order they are listed in, and links that name another place of the tree. -/

namespace HostMeter

abbrev Path := List String

inductive FileTree where
  | file (content : Bytes)
  /-- The place is named from the root of the tree. -/
  | link (target : Path)
  | dir (entries : List (String × FileTree))
  deriving Repr

inductive FileError
  | missing
  | notDirectory
  | isDirectory
  | notText
  | tooManyLinks
  deriving DecidableEq, Repr

def FileError.message : FileError → String
  | .missing => "No such file or directory (os error 2)"
  | .notDirectory => "Not a directory (os error 20)"
  | .isDirectory => "Is a directory (os error 21)"
  | .notText => "stream did not contain valid UTF-8"
  | .tooManyLinks => "Too many levels of symbolic links (os error 40)"

/-- The parts of a path between slashes; empty ones and single points lead nowhere. -/
def Path.ofText (s : String) : Path := (s.splitOn "/").filter (fun p => p ≠ "" ∧ p ≠ ".")

def Path.text (p : Path) : String := String.join (p.map ("/"++·))

namespace FileTree

def isDir : FileTree → Bool
  | .dir _ => true
  | _ => false

def child? (es : List (String × FileTree)) (name : String) : Option FileTree :=
  (es.find? (·.1 == name)).map (·.2)

def walk (root : FileTree) : Nat → FileTree → Path → Except FileError FileTree
  | links,.link target,rest =>
    match links with
    | 0 => .error .tooManyLinks
    | links+1 => walk root links root (target++rest)
  | _,t,[] => .ok t
  | _,.file _,_ :: _ => .error .notDirectory
  | links,.dir es,name :: rest =>
    match child? es name with
    | some t => walk root links t rest
    | none => .error .missing
termination_by links _ path => (links,path.length)

/-- How many links may be followed on the way to one place. -/
def linkLimit : Nat := 40

def at? (t : FileTree) (p : Path) : Except FileError FileTree := walk t linkLimit t p

def exists? (t : FileTree) (p : Path) : Bool := (t.at? p).isOk

def readBytes (t : FileTree) (p : Path) : Except FileError Bytes :=
  match t.at? p with
  | .ok (.file bs) => .ok bs
  | .ok _ => .error .isDirectory
  | .error e => .error e

def readText (t : FileTree) (p : Path) : Except FileError (List Char) :=
  match t.readBytes p with
  | .ok bs => match Utf8.decode? bs with
    | some cs => .ok cs
    | none => .error .notText
  | .error e => .error e

def text? (t : FileTree) (p : Path) : Option (List Char) := (t.readText p).toOption

def list (t : FileTree) (p : Path) : Except FileError (List (String × FileTree)) :=
  match t.at? p with
  | .ok (.dir es) => .ok es
  | .ok _ => .error .notDirectory
  | .error e => .error e

def setEntry (name : String) (t : FileTree) : List (String × FileTree) → List (String × FileTree)
  | [] => [(name,t)]
  | (n,u) :: es => if n = name then (n,t) :: es else (n,u) :: setEntry name t es

/-- Puts something at a path, with the directories that lead there. -/
def put (new : FileTree) : Path → FileTree → FileTree
  | [],_ => new
  | name :: rest,.dir es => .dir (setEntry name (put new rest ((child? es name).getD (.dir []))) es)
  | name :: rest,_ => .dir [(name,put new rest (.dir []))]

/-- A directory that is there already stays as it is. -/
def makeDir (p : Path) (t : FileTree) : FileTree :=
  match t.at? p with
  | .ok (.dir _) => t
  | _ => put (.dir []) p t

def remove : Path → FileTree → FileTree
  | [],t => t
  | [name],.dir es => .dir (es.filter (·.1 ≠ name))
  | name :: rest,.dir es =>
    match child? es name with
    | some t => .dir (setEntry name (remove rest t) es)
    | none => .dir es
  | _,t => t

/-- What stands at a path, without following a link that stands there. -/
def plain? : Path → FileTree → Option FileTree
  | [],t => some t
  | name :: rest,.dir es => (child? es name).bind (plain? rest)
  | _ :: _,_ => none

mutual

/-- A place and all places below it, a directory after what it holds. -/
def places (p : Path) : FileTree → List Path
  | .dir es => placesAll p es++[p]
  | _ => [p]

def placesAll (p : Path) : List (String × FileTree) → List Path
  | [] => []
  | (n,t) :: es => places (p++[n]) t++placesAll p es

end

end FileTree

end HostMeter
