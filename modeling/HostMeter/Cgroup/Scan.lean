import HostMeter.Cgroup.Scope
import HostMeter.FileTree
set_option autoImplicit false

/-! Finding the containers of a hierarchy. A directory is one when its name holds a container's id and
it has a `cpu.stat`; what lies inside a container is not looked at. -/

namespace HostMeter.Cgroup

structure Found where
  id : String
  path : Path
  deriving DecidableEq, Repr

def statName : String := "cpu.stat"

def containerOf? (isThere : Path → Bool) (place : Path) (name : String) : Option String :=
  (containerId name).filter fun _ => isThere (place++[name,statName])

mutual

def scan (isThere : Path → Bool) : Path → FileTree → List Found
  | p,.dir es => scanAll isThere p es
  | _,.file _ => []
  | _,.link _ => []
termination_by structural _ t => t

def scanAll (isThere : Path → Bool) : Path → List (String × FileTree) → List Found
  | _,[] => []
  | p,e :: es => scanEntry isThere p e++scanAll isThere p es
termination_by structural _ es => es

/-- A directory that is a container is not looked into. -/
def scanEntry (isThere : Path → Bool) : Path → String × FileTree → List Found
  | p,(name,t) =>
    if t.isDir then
      match containerOf? isThere p name with
      | some id => [⟨id,p++[name]⟩]
      | none => scan isThere (p++[name]) t
    else []
termination_by structural _ e => e

end

/-- The containers of the hierarchy at a path. A `cpu.stat` may be behind a link. -/
def scanAt (whole : FileTree) (root : Path) : Except FileError (List Found) :=
  (whole.list root).map (scanAll whole.exists? root)

end HostMeter.Cgroup
