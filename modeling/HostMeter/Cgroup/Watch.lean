import HostMeter.Cgroup.Snapshot
set_option autoImplicit false

/-! Lifecycle events from changes of files. A new cgroup waits for its first process before it counts
as a container that has begun; removing it ends the container. Growing counters in `memory.events`
tell of memory running out. -/

namespace HostMeter.Cgroup

inductive Change
  | created
  | removed
  | modified
  | other
  deriving DecidableEq, Repr

/-- A change of some places of the file tree. -/
structure Notification where
  change : Change
  paths : List Path
  deriving DecidableEq, Repr

structure OomCount where
  oom : UInt64 := 0
  kills : UInt64 := 0
  deriving DecidableEq, Repr

structure WatchState where
  oom : Table OomCount := .empty
  /-- Containers whose cgroup has no process yet. -/
  pending : Table Unit := .empty
  deriving DecidableEq, Repr

namespace WatchState

def forget (name : String) (s : WatchState) : WatchState :=
  ⟨s.oom.erase name,s.pending.erase name⟩

/-- Takes new counters, and tells which of them have grown. -/
def updateOom (name : String) (c : OomCount) (s : WatchState) : List EventType × WatchState :=
  let last := (s.oom.get? name).getD {}
  ((if last.oom < c.oom then [.oom] else [])++(if last.kills < c.kills then [.oomKill] else []),
    { s with oom := s.oom.insert name c })

end WatchState

def oomCount (cs : List Char) : OomCount :=
  let counters := flatKeyed cs
  ⟨(counters.get? "oom").getD 0,(counters.get? "oom_kill").getD 0⟩

def containerOfPath (p : Path) : Option String := p.getLast?.bind containerId

def hasProcess (t : FileTree) (cgroup : Path) : Bool := (member? t cgroup).isSome

def createdEvents (t : FileTree) (p : Path) (s : WatchState) :
    List (EventType × String) × WatchState :=
  match containerOfPath p with
  | some name =>
    if hasProcess t p then ([(.creation,name)],s)
    else ([],{ s with pending := s.pending.insert name () })
  | none => ([],s)

def removedEvents (p : Path) (s : WatchState) : List (EventType × String) × WatchState :=
  match containerOfPath p with
  | some name => ([(.deletion,name)],s.forget name)
  | none => ([],s)

def memoryFile : String := "memory.events"

/-- The files that change when processes join or leave a cgroup. -/
def processFiles : List String := ["cgroup.procs","cgroup.events"]

def modifiedEvents (t : FileTree) (p : Path) (s : WatchState) :
    List (EventType × String) × WatchState :=
  match p.getLast?,containerOfPath p.dropLast with
  | some file,some name =>
    if file = memoryFile then
      match t.text? p with
      | some cs =>
        let (types,s) := s.updateOom name (oomCount cs)
        (types.map (·,name),s)
      | none => ([],s)
    else if processFiles.contains file && s.pending.contains name && hasProcess t p.dropLast then
      ([(.creation,name)],{ s with pending := s.pending.erase name })
    else ([],s)
  | _,_ => ([],s)

def eventsOfPath (t : FileTree) (change : Change) (p : Path) (s : WatchState) :
    List (EventType × String) × WatchState :=
  match change with
  | .created => createdEvents t p s
  | .removed => removedEvents p s
  | .modified => modifiedEvents t p s
  | .other => ([],s)

def eventsOfPaths (t : FileTree) (change : Change) : List Path → WatchState →
    List (EventType × String) × WatchState
  | [],s => ([],s)
  | p :: ps,s =>
    let (es,s) := eventsOfPath t change p s
    let (fs,s) := eventsOfPaths t change ps s
    (es++fs,s)

def eventsOf (t : FileTree) (clock : Timestamp) (n : Notification) (s : WatchState) :
    List Event × WatchState :=
  let (es,s) := eventsOfPaths t n.change n.paths s
  (es.map (fun e => { type := e.1, containerName := e.2, timestamp := clock }),s)

/-- Paths below a root, the root among them. -/
def isBelow (root p : Path) : Bool := (below? root p).isSome

end HostMeter.Cgroup
