import HostMeter.Cgroup.Hierarchy
import HostMeter.Cgroup.Watch
import HostMeter.Clock
set_option autoImplicit false

/-! A host with its files as time goes by. Samplers put a reading of their container on a channel of
two places at once and then at every interval, and end with the cgroup or with the reader; watches
gather the events of the changes that are made to the files. -/

namespace HostMeter.Cgroup

structure Sampler where
  name : String
  cgroup : Path
  channel : ChannelId
  due : Nat
  deriving DecidableEq, Repr

structure Watching where
  types : List EventType
  state : WatchState := {}
  events : List Event := []

structure Host where
  files : FileTree
  hierarchy : Hierarchy
  channels : UsageChannels := {}
  samplers : List Sampler := []
  /-- By number; a watch that was given up is gone. -/
  watches : List (Option Watching) := []
  now : Nat := 0
  clock : Timestamp := 0
  /-- Newest first. -/
  log : List Notice := []

namespace Host

instance : Journal Host where
  note n h := { h with log := n :: h.log }

def snapshotPlaces : Nat := 2

def ask {α : Type} (f : FileTree → Hierarchy → α × Hierarchy) (h : Host) : α × Host :=
  let (a,hierarchy) := f h.files h.hierarchy
  (a,{ h with hierarchy })

def openUsage (name : String) (h : Host) : Except RuntimeError (ChannelId × Container) × Host :=
  match h.ask (fun t => Hierarchy.get t name) with
  | (.ok (cgroup,c),h) =>
    let i := h.channels.next
    (.ok (i,c),
      { h with
        channels := h.channels.add ⟨c,.ofPlaces snapshotPlaces⟩
        samplers := h.samplers++[⟨name,cgroup,i,h.now⟩] })
  | (.error e,h) => (.error e,h)

/-- One turn of a sampler, which goes on or ends; a snapshot without a place is skipped. -/
def turn (s : Sampler) (h : Host) : Option Sampler × Host :=
  let next := some { s with due := s.due+h.hierarchy.rateMs }
  if !h.channels.isRead s.channel then (none,{ h with channels := h.channels.cut s.channel })
  else
    match usage h.files h.hierarchy.proc s.cgroup s.name with
    | .ok u => (next,{ h with channels := (h.channels.offer s.channel u).2 })
    | .error (.notFound _) => (none,{ h with channels := h.channels.cut s.channel })
    | .error _ => (next,h)

def turns : List Sampler → Host → List Sampler × Host
  | [],h => ([],h)
  | s :: ss,h =>
    if s.due ≤ h.now then
      let (s,h) := turn s h
      let (ss,h) := turns ss h
      (s.toList++ss,h)
    else
      let (ss,h) := turns ss h
      (s :: ss,h)

def instant (t : Nat) (h : Host) : Host :=
  let (samplers,h) := turns h.samplers { h with now := t }
  { h with samplers }

def settle (h : Host) : Host := h.instant h.now

def nextDue (h : Host) : Option Nat := (h.samplers.map (·.due)).min?

def advance (ms : Nat) (h : Host) : Host := Clock.runTo nextDue instant (h.now+ms) h.now h

def tryRecv (i : ChannelId) (h : Host) : Taken Usage × Host :=
  let (t,channels) := h.channels.take i
  (t,{ h with channels })

/-- Waits for the next snapshot, up to the next turn of a sampler. -/
def recv (i : ChannelId) (h : Host) : Taken Usage × Host :=
  match h.tryRecv i with
  | (.empty,h) => tryRecv i (match h.nextDue with
    | some t => h.instant (max t h.now)
    | none => h)
  | r => r

def closeChannel (i : ChannelId) (h : Host) : Host := { h with channels := h.channels.close i }

def notifyOne (n : Notification) (h : Host) (w : Watching) : Watching :=
  let paths := n.paths.filter (isBelow h.hierarchy.root)
  let (es,state) := eventsOf h.files h.clock { n with paths } w.state
  { w with state, events := w.events++es.filter (fun e => w.types.contains e.type) }

def notify (n : Notification) (h : Host) : Host :=
  { h with watches := h.watches.map (Option.map (notifyOne n h)) }

def notifyAll (ns : List Notification) (h : Host) : Host := ns.foldl (fun h n => h.notify n) h

def put (p : Path) (content : Option Bytes) (h : Host) : Host :=
  let old := FileTree.plain? p h.files
  match content with
  | none =>
    let h := { h with files := FileTree.makeDir p h.files }
    if old.isSome then h else h.notify ⟨.created,[p]⟩
  | some bs =>
    let h := { h with files := FileTree.put (.file bs) p h.files }
    notifyAll ((if old.isSome then [] else [⟨.created,[p]⟩])++[⟨.modified,[p]⟩]) h

def replace (p : Path) (bs : Bytes) (h : Host) : Host :=
  notify ⟨.modified,[p]⟩ { h with files := FileTree.put (.file bs) p h.files }

def link (p target : Path) (h : Host) : Host :=
  notify ⟨.created,[p]⟩ { h with files := FileTree.put (.link target) p h.files }

def remove (p : Path) (h : Host) : Host :=
  match FileTree.plain? p h.files with
  | some t =>
    let gone := FileTree.places p t
    notifyAll (gone.map (fun p => ⟨.removed,[p]⟩)) { h with files := FileTree.remove p h.files }
  | none => h

def watch (types : List EventType) (h : Host) : Except RuntimeError WatchId × Host :=
  if h.files.exists? h.hierarchy.root then
    (.ok h.watches.length,{ h with watches := h.watches++[some { types }] })
  else (.error (.watch FileError.missing.message),h)

def watching? (i : WatchId) (h : Host) : Option Watching := (h.watches[i]?).bind id

def setEvents (i : WatchId) (events : List Event) (h : Host) : Host :=
  { h with watches := h.watches.modify i (Option.map (fun w => { w with events })) }

def nextEvent (i : WatchId) (h : Host) : Option Event × Host :=
  match (h.watching? i).map (·.events) with
  | some (e :: es) => (some e,h.setEvents i es)
  | _ => (none,h)

def takeEvents (i : WatchId) (h : Host) : List Event × Host :=
  (((h.watching? i).map (·.events)).getD [],h.setEvents i [])

def unwatch (i : WatchId) (h : Host) : Host := { h with watches := h.watches.set i none }

def startSampler (name : String) (i : ChannelId) (h : Host) : Outcome RuntimeError Opening × Host :=
  match h.ask (fun t => Hierarchy.get t name) with
  | (.ok (cgroup,container),h) =>
    (.done { container, places := snapshotPlaces },
      { h with samplers := h.samplers++[⟨name,cgroup,i,h.now⟩] })
  | (.error e,h) => (.failed e,h)

def feed (t : Nat) (cs : UsageChannels) (h : Host) : UsageChannels × Host :=
  let fed := instant t { h with channels := cs }
  (fed.channels,{ fed with channels := h.channels })

instance : ContainerRuntime Host where
  labelKeys _ := some Cgroup.labelKeys
  list h := match h.ask Hierarchy.list with
    | (.ok cs,h) => (.done cs,note (.containersFound cs.length) h)
    | (.error e,h) => (.failed e,h)
  describe n h := match h.ask (fun t => Hierarchy.get t n) with
    | (.ok (_,c),h) => (.done c,h)
    | (.error e,h) => (.failed e,h)
  openUsage := startSampler
  watch types h := match h.watch types with
    | (.ok w,h) => (.done w,note (.hierarchyWatched h.hierarchy.rootText) h)
    | (.error e,h) => (.failed e,h)
  takeEvents i h := (⟨(h.takeEvents i).1,false⟩,(h.takeEvents i).2)
  unwatch := unwatch

end Host

end HostMeter.Cgroup
