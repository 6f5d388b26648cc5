import HostMeter.Cgroup.Snapshot
set_option autoImplicit false

/-! The runtime that a hierarchy of control groups is. It remembers where it has seen each container,
and scans again when a container is not there any more. -/

namespace HostMeter.Cgroup

structure Hierarchy where
  root : Path
  rootText : String
  proc : Path
  machine : Option Machine
  rateMs : Nat
  known : Table Path := .empty

namespace Hierarchy

def ofRoot (t : FileTree) (host : HostFacts) (rootText : String) (root proc : Path) (rateMs : Nat) :
    Hierarchy :=
  { root, rootText, proc, machine := machine? t proc host, rateMs := max rateMs 1 }

def noHierarchy (rootText : String) : String := "no cgroup v2 unified hierarchy at "++rootText

/-- Takes the root only if it is one of a unified hierarchy. -/
def open? (t : FileTree) (host : HostFacts) (rootText : String) (root proc : Path) (rateMs : Nat) :
    Except RuntimeError Hierarchy :=
  if t.exists? (root++["cgroup.controllers"]) then .ok (ofRoot t host rootText root proc rateMs)
  else .error (.unavailable (noHierarchy rootText))

/-- Of several places of one container the last is remembered. -/
def remember (h : Hierarchy) (found : List Found) : Hierarchy :=
  { h with known := found.foldl (fun k f => k.insert f.id f.path) .empty }

def scan (t : FileTree) (h : Hierarchy) : Except RuntimeError (List Found) × Hierarchy :=
  match scanAt t h.root with
  | .ok found => (.ok found,h.remember found)
  | .error e => (.error (fileError e),h)

/-- Scans for a container; of several places the first is taken. -/
def search (t : FileTree) (name : String) (h : Hierarchy) : Except RuntimeError Path × Hierarchy :=
  match h.scan t with
  | (.ok found,h) => match found.find? (·.id == name) with
    | some f => (.ok f.path,h)
    | none => (.error (.notFound name),h)
  | (.error e,h) => (.error e,h)

/-- A remembered place serves as long as something is there. -/
def find (t : FileTree) (name : String) (h : Hierarchy) : Except RuntimeError Path × Hierarchy :=
  match h.known.get? name with
  | some p =>
    if t.exists? p then (.ok p,h) else search t name { h with known := h.known.erase name }
  | none => search t name h

def describeAt (t : FileTree) (h : Hierarchy) (f : Found) : Container :=
  Cgroup.describe t h.root h.proc h.machine f

def list (t : FileTree) (h : Hierarchy) : Except RuntimeError (List Container) × Hierarchy :=
  match h.scan t with
  | (.ok found,h) => (.ok (found.map (h.describeAt t)),h)
  | (.error e,h) => (.error e,h)

def get (t : FileTree) (name : String) (h : Hierarchy) :
    Except RuntimeError (Path × Container) × Hierarchy :=
  match h.find t name with
  | (.ok p,h) => (.ok (p,h.describeAt t ⟨name,p⟩),h)
  | (.error e,h) => (.error e,h)

end Hierarchy

end HostMeter.Cgroup
