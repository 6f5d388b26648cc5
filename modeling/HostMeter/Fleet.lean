import HostMeter.ContainerRuntime
set_option autoImplicit false

/-! A runtime that exists in memory only: its containers, events and readings are put in by hand.
It serves to rehearse the meter. -/

namespace HostMeter

structure Watcher where
  types : List EventType
  events : Channel Event
  deriving DecidableEq, Repr

structure Fleet where
  containers : Table Container := .empty
  watchers : List Watcher := []
  /-- The channel that readings of each container go to. -/
  feeds : Table ChannelId := .empty
  opened : Table Nat := .empty
  labelKeys : Option (List String) := none
  deriving DecidableEq, Repr

namespace Fleet

def eventPlaces : Nat := 256
def usagePlaces : Nat := 64

def add (c : Container) (f : Fleet) : Fleet := { f with containers := f.containers.insert c.name c }

def ofContainers (cs : List Container) : Fleet := cs.foldl (fun f c => f.add c) {}

/-- Lets go of the channel of a container; the channel that lost its producer comes with it. -/
def closeUsage (name : String) (f : Fleet) : Option ChannelId × Fleet :=
  (f.feeds.get? name,{ f with feeds := f.feeds.erase name })

def remove (name : String) (f : Fleet) : Option ChannelId × Fleet :=
  closeUsage name { f with containers := f.containers.erase name }

/-- Hands an event to a watcher of its type, if there is place for it. -/
def Watcher.receive (e : Event) (w : Watcher) : Bool × Watcher :=
  if w.types.contains e.type then
    match w.events.offer e with
    | (.accepted,events) => (true,{ w with events })
    | (_,_) => (false,w)
  else (false,w)

def emit (e : Event) (f : Fleet) : Nat × Fleet :=
  let handed := f.watchers.map (Watcher.receive e)
  ((handed.filter (·.1)).length,{ f with watchers := handed.map (·.2) })

def push (name : String) (u : Usage) (f : Fleet) (cs : UsageChannels) : Bool × UsageChannels :=
  match f.feeds.get? name with
  | some i => ((cs.offer i u).1 = .accepted,(cs.offer i u).2)
  | none => (false,cs)

def usageOpen (name : String) (f : Fleet) (cs : UsageChannels) : Bool :=
  ((f.feeds.get? name).map cs.isRead).getD false

def openedCount (name : String) (f : Fleet) : Nat := (f.opened.get? name).getD 0

def describe? (name : String) (f : Fleet) : Outcome RuntimeError Container :=
  match f.containers.get? name with
  | some c => .done c
  | none => .failed (.notFound name)

/-- A new channel takes the place of an earlier one of the same container. -/
def openUsage (name : String) (i : ChannelId) (f : Fleet) : Outcome RuntimeError Opening × Fleet :=
  match f.containers.get? name with
  | some c =>
    (.done { container := c, places := usagePlaces, abandoned := f.feeds.get? name,
             notices := [.usageOpened name] },
      { f with feeds := f.feeds.insert name i, opened := f.opened.insert name (f.openedCount name+1) })
  | none => (.failed (.notFound name),f)

def watch (types : List EventType) (f : Fleet) : WatchId × Fleet :=
  (f.watchers.length,{ f with watchers := f.watchers++[⟨types,.ofPlaces eventPlaces⟩] })

def nextEvent (i : WatchId) (f : Fleet) : Taken Event × Fleet :=
  match f.watchers[i]? with
  | some w => (w.events.take.1,
      { f with watchers := f.watchers.modify i (fun w => { w with events := w.events.take.2 }) })
  | none => (.disconnected,f)

def takeEvents (i : WatchId) (f : Fleet) : EventBatch × Fleet :=
  match f.watchers[i]? with
  | some w => (⟨w.events.queued,!w.events.fed⟩,
      { f with watchers := f.watchers.modify i (fun w => { w with events := w.events.drain.2 }) })
  | none => ({ ended := true },f)

def unwatch (i : WatchId) (f : Fleet) : Fleet :=
  { f with watchers := f.watchers.modify i (fun w => { w with events := w.events.close }) }

instance : ContainerRuntime Fleet where
  labelKeys f := f.labelKeys
  list f := (.done f.containers.values,f)
  describe n f := (f.describe? n,f)
  openUsage := openUsage
  watch types f := (.done (f.watch types).1,(f.watch types).2)
  takeEvents := takeEvents
  unwatch := unwatch

end Fleet

end HostMeter
