import HostMeter.Cgroup.Files
import HostMeter.Cgroup.Scan
import HostMeter.Number.Limits
import HostMeter.ContainerRuntime
set_option autoImplicit false

/-! What the files of a cgroup say about its container: the descriptor and a reading of its usage. -/

namespace HostMeter.Cgroup

open Text

/-- What is asked of the host itself and not of its files. -/
structure HostFacts where
  systemUuid : String
  cores : UInt32
  deriving DecidableEq, Repr

def fileError (e : FileError) : RuntimeError := .io e.message

def member? (t : FileTree) (cgroup : Path) : Option Nat :=
  (t.text? (cgroup++["cgroup.procs"])).bind firstPid

def memoryTotal (cs : List Char) : UInt64 :=
  match (lines cs).findSome? (dropHead? "MemTotal:".toList) with
  | some rest => (((words rest).head?).bind readWord64).getD 0
  | none => 0

def frequency (cs : List Char) : UInt64 :=
  let mhz : Option Binary64 := do
    let line ← (lines cs).find? (fun l => (dropHead? "cpu MHz".toList l).isSome)
    let value ← (splitAll (· = ':') line)[1]?
    Binary64.ofText? (trim value)
  match mhz with
  | some x => UInt64.ofNat ((x.mul (Binary64.ofNat 1000)).toNatWithin (limit64-1))
  | none => 0

/-- Known when the process directory tells of the memory. -/
def machine? (t : FileTree) (proc : Path) (host : HostFacts) : Option Machine :=
  (t.text? (proc++["meminfo"])).map fun meminfo =>
    { systemUuid := host.systemUuid, cores := host.cores
      memoryBytes := memoryTotal meminfo*1024
      cpuFrequencyKhz := ((t.text? (proc++["cpuinfo"])).map frequency).getD 0 }

def pathLabel : String := "cgroup.path"
def parentLabel : String := "cgroup.parent"

def labelKeys : List String := [pathLabel,parentLabel]

def below? : Path → Path → Option Path
  | [],p => some p
  | r :: rs,n :: ns => if r = n then below? rs ns else none
  | _ :: _,[] => none

def pathLabels (root cgroup : Path) : Table String :=
  let t : Table String := match below? root cgroup with
    | some rest => Table.empty.insert pathLabel ("/"++"/".intercalate rest)
    | none => .empty
  match cgroup.dropLast.getLast? with
  | some parent => t.insert parentLabel parent
  | none => t

def environment (t : FileTree) (proc cgroup : Path) : Table String :=
  match member? t cgroup with
  | some pid => match t.readBytes (proc++[toString pid,"environ"]) with
    | .ok block => environ block
    | .error _ => .empty
  | none => .empty

/-- Either limit alone leaves the other at zero. -/
def reservation? (t : FileTree) (cgroup : Path) : Option Reservation :=
  match (t.text? (cgroup++["cpu.max"])).bind cpuMax,
    (t.text? (cgroup++["memory.max"])).bind memoryMax with
  | none,none => none
  | cpu,memory => some ⟨cpu.getD (.zero false),memory.getD 0⟩

def describe (t : FileTree) (root proc : Path) (machine : Option Machine) (f : Found) : Container :=
  { name := f.id, labels := pathLabels root f.path, env := environment t proc f.path, machine
    reserved := reservation? t f.path }

def nanoseconds (micro : UInt64) : UInt64 := UInt64.ofNat (min (micro.toNat*1000) (limit64-1))

def network? (t : FileTree) (proc cgroup : Path) : Option NetworkUsage :=
  (member? t cgroup).bind fun pid => (t.text? (proc++[toString pid,"net","dev"])).map netDev

/-- A cgroup without `cpu.stat` is not there any more. -/
def usage (t : FileTree) (proc cgroup : Path) (shown : String) : Except RuntimeError Usage :=
  match t.readText (cgroup++["cpu.stat"]) with
  | .error .missing => .error (.notFound shown)
  | .error e => .error (fileError e)
  | .ok stat =>
    .ok {
      cpu := some { total := nanoseconds (cpuStat stat) }
      memory := do pure ⟨← readWord64 (trim (← t.text? (cgroup++["memory.current"])))⟩
      network := network? t proc cgroup
      disk := (t.text? (cgroup++["io.stat"])).map (fun cs => ⟨ioStat cs⟩) }

end HostMeter.Cgroup
