import HostMeter.Backend
import HostMeter.Collector
import HostMeter.Health
import HostMeter.Tracking
set_option autoImplicit false

/-! The state of a running meter, and the steps that all its parts take on it. -/

namespace HostMeter

structure Meter (δ ρ : Type) where
  registry : Registry
  collector : Collector
  runtime : δ
  backend : ρ
  health : Health := {}
  metrics : Metrics := {}
  /-- Newest first. -/
  log : List Notice := []
  clock : Timestamp := 0

namespace Meter

variable {δ ρ α : Type}

instance : Journal (Meter δ ρ) where
  note n m := { m with log := n :: m.log }

instance : Metered (Meter δ ρ) where
  count f m := { m with metrics := f m.metrics }

def noteAll (ns : List Notice) (m : Meter δ ρ) : Meter δ ρ := ns.foldl (fun m n => note n m) m

def register (c : Container) (m : Meter δ ρ) : Registration × Meter δ ρ :=
  let (r,registry) := m.registry.register c
  (r,noteAll (r.notices c.name) { m with registry })

def drop (name : String) (m : Meter δ ρ) : Bool × Meter δ ρ :=
  let (was,registry) := m.registry.drop name
  (was,note (Registry.dropNotice was name) { m with registry })

def countTracked (m : Meter δ ρ) : Meter δ ρ :=
  { m with metrics := m.metrics.setContainersTracked m.registry.size }

def heed (m : Meter δ ρ) (e : Collector.Effect) : Meter δ ρ :=
  noteAll e.notice?.toList { m with metrics := e.count m.metrics }

def sampling (f : Collector → α × Collector × Collector.Effects) (m : Meter δ ρ) : α × Meter δ ρ :=
  let (a,c,es) := f m.collector
  (a,es.foldl heed { m with collector := c })

def setChannels (channels : UsageChannels) (m : Meter δ ρ) : Meter δ ρ :=
  { m with collector := { m.collector with channels } }

def channels (m : Meter δ ρ) : UsageChannels := m.collector.channels

def collect (i : ChannelId) (m : Meter δ ρ) : Bool × Meter δ ρ := m.sampling (Collector.collect i)

def stopCollecting (name : String) (m : Meter δ ρ) : Collector.Stop × Meter δ ρ :=
  m.sampling (Collector.stop name)

def stopAll (m : Meter δ ρ) : List ChannelId × Meter δ ρ := m.sampling Collector.stopAll

def closeChannel (i : ChannelId) (m : Meter δ ρ) : Meter δ ρ := m.setChannels (m.channels.close i)

def cutChannel (i : Option ChannelId) (m : Meter δ ρ) : Meter δ ρ :=
  match i with
  | some i => m.setChannels (m.channels.cut i)
  | none => m

def instant (t : Nat) (m : Meter δ ρ) : Meter δ ρ :=
  (m.sampling (fun c => ((),c.instant m.clock t))).2

/-- Lets time pass for the poll loops; `after` is what happens after each instant. -/
def advance (after : Meter δ ρ → Meter δ ρ) (ms : Nat) (m : Meter δ ρ) : Meter δ ρ :=
  Clock.runTo (·.collector.nextDue) (fun t m => after (m.instant t))
    (m.collector.now+ms) m.collector.now m

def drainStream (m : Meter δ ρ) : List Sample × Meter δ ρ :=
  let (ss,stream) := m.collector.stream.drain
  (ss,{ m with collector := { m.collector with stream } })

def openUsage [ContainerRuntime δ] (name : String) (m : Meter δ ρ) :
    Outcome RuntimeError ChannelId × Meter δ ρ :=
  let i := m.channels.next
  match ContainerRuntime.openUsage name i m.runtime with
  | (.done o,runtime) =>
    let m : Meter δ ρ := { m with runtime }
    let m := m.setChannels (m.channels.add ⟨o.container,.ofPlaces o.places⟩)
    (.done i,noteAll o.notices (m.cutChannel o.abandoned))
  | (.failed e,runtime) => (.failed e,{ m with runtime })
  | (.crashed,runtime) => (.crashed,{ m with runtime })

def describe [ContainerRuntime δ] (name : String) (m : Meter δ ρ) :
    Outcome RuntimeError Container × Meter δ ρ :=
  let (o,runtime) := ContainerRuntime.describe name m.runtime
  (o,{ m with runtime })

def deliver [Backend ρ] (r : Report) (m : Meter δ ρ) :
    Outcome DeliveryError Receipt × Meter δ ρ :=
  match Backend.deliver r m.backend with
  | (.done d,backend) => (.done d.receipt,noteAll d.notices { m with backend })
  | (.failed e,backend) => (.failed e,{ m with backend })
  | (.crashed,backend) => (.crashed,{ m with backend })

end Meter

end HostMeter
