import HostMeter.Meter
import HostMeter.Pipeline
set_option autoImplicit false

/-! The standard chain of filters. Discoveries become state changes of tracked containers, state
changes start and stop sampling, and both samples and state changes become reports. -/

namespace HostMeter

structure ChainSettings where
  meterId : String
  serviceKey : String
  /-- Whether the outcome of deliveries shows in the health of the reporter. -/
  reportHealth : Bool := true
  deriving DecidableEq, Repr

namespace Chain

variable {δ ρ : Type}

def logger : Filter (Meter δ ρ) where
  name := "logger"
  handle msg m := ({},note (.processing msg.kind) m)

/-- A discovery of a trackable container under a free name goes on as a change to running. -/
def discover (meterId : String) (c : Container) (m : Meter δ ρ) : Turn × Meter δ ρ :=
  if !m.registry.isTrackable c then ({ requests := [.stop] },note (.notTrackable c.name) m)
  else
    match m.register c with
    | (.added,m) =>
      let e := Event.existed c m.clock
      ({ requests := [.supersede (.change (.ofEvent e))] },
        note (.tracking meterId c.name c.imageName e.type.tag) m.countTracked)
    | (.present,m) => ({ requests := [.stop] },note (.alreadyTracked c.name) m)
    | (.notTrackable,m) => ({ verdict := .failed (.registering c.name) },m)

/-- Changes of containers that are not tracked end here; a stop takes the container off the registry
and leaves with the descriptor that was registered. -/
def change (meterId : String) (c : StateChange) (m : Meter δ ρ) : Turn × Meter δ ρ :=
  let name := c.containerName
  if !m.registry.isRegistered name then
    ({ requests := [.stop] },note (.untrackedChange name) m)
  else if c.state = .stopped then
    let resolved : List Request :=
      if c.isResolved then []
      else ((m.registry.get? name).map (fun info =>
        .supersede (.change (c.withContainer info)))).toList
    ({ requests := resolved },
      note (.trackingEnded meterId name c.source.type.tag) (m.drop name).2.countTracked)
  else ({},m)

def registry (meterId : String) : Filter (Meter δ ρ) where
  name := "registry"
  handle
    | .discovery c,m => discover meterId c m
    | .change c,m => change meterId c m
    | _,m => ({},m)

def attach (c : StateChange) (found : Option Container) (m : Meter δ ρ) : Turn × Meter δ ρ :=
  match found with
  | some info => ({ requests := [.supersede (.change (c.withContainer info))] },m)
  | none => ({},note (.unresolved c.containerName) m)

/-- Looks running containers up in the runtime, stopped ones in the registry. -/
def resolve [ContainerRuntime δ] (c : StateChange) (m : Meter δ ρ) : Turn × Meter δ ρ :=
  if c.isResolved then ({},m)
  else
    let name := c.containerName
    match c.state with
    | .running =>
      match m.describe name with
      | (.done info,m) => attach c (some info) m
      | (.failed (.notFound _),m) => attach c none (note (.unknownToDriver name) m)
      | (.failed e,m) => ({ verdict := .failed (.resolving name e) },m)
      | (.crashed,m) => ({ verdict := .crashed },m)
    | .stopped => attach c (m.registry.get? name) m
    | .unknown => attach c none m

def containerResolver [ContainerRuntime δ] : Filter (Meter δ ρ) where
  name := "container_resolver"
  handle
    | .change c,m => resolve c m
    | _,m => ({},m)

/-- The service a container belongs to is what its label for the service key says. -/
def serviceNotices (serviceKey : String) (c : StateChange) : List Notice :=
  match c.container.bind (·.label? serviceKey) with
  | some service => [.stateReached c.state.name c.containerName (some service)]
  | none => [.serviceKeyMissing c.containerName serviceKey,
      .stateReached c.state.name c.containerName none]

def serviceResolver (serviceKey : String) : Filter (Meter δ ρ) where
  name := "service_resolver"
  handle
    | .change c,m => ({},m.noteAll (serviceNotices serviceKey c))
    | _,m => ({},m)

def startSampling [ContainerRuntime δ] (name : String) (m : Meter δ ρ) : Turn × Meter δ ρ :=
  if m.collector.isCollecting name then ({},note (.collectingAlready name) m)
  else
    match m.openUsage name with
    | (.done i,m) => ({},(m.collect i).2)
    | (.failed e,m) => ({ verdict := .failed (.opening name e) },m)
    | (.crashed,m) => ({ verdict := .crashed },m)

def stopSampling (name : String) (m : Meter δ ρ) : Turn × Meter δ ρ :=
  match m.stopCollecting name with
  | (.channel i,m) => ({},m.closeChannel i)
  | (.notFound,m) => ({},note (.nothingToStop name) m)
  | (.lost,m) => ({ verdict := .failed (.stopping name) },m)

def sampleCollector [ContainerRuntime δ] : Filter (Meter δ ρ) where
  name := "sample_collector"
  handle
    | .discovery c,m => startSampling c.name m
    | .change c,m => match c.state with
      | .running => startSampling c.containerName m
      | .stopped => stopSampling c.containerName m
      | .unknown => ({},m)
    | _,m => ({},m)

def reportGenerator (meterId : String) : Filter (Meter δ ρ) where
  name := "report_generator"
  handle
    | .sample s,m => ({ requests := [.supersede (.report (.ofSample meterId s m.clock))] },m)
    | .change c,m => ({ requests := [.supersede (.report (.ofChange meterId c m.clock))] },m)
    | _,m => ({},m)

/-- Deliveries are taken to need no time. -/
def noTime : Binary64 := .zero false

def delivered (s : ChainSettings) (r : Report) (receipt : Receipt) (m : Meter δ ρ) : Meter δ ρ :=
  let m := { m with metrics := m.metrics.observeReportSent noTime }
  let m := note (.reportAccepted s.meterId r.eventType r.containerName receipt.text) m
  if s.reportHealth then { m with health := m.health.setHealthy Health.reporter m.clock } else m

def refused (s : ChainSettings) (r : Report) (e : DeliveryError) (m : Meter δ ρ) : Meter δ ρ :=
  let m := { m with metrics := m.metrics.incReportsFailed }
  let m := note (.reportFailed s.meterId r.eventType r.containerName e.message) m
  if s.reportHealth then
    { m with
      health := m.health.setDegraded Health.reporter ("last report failed: "++e.message) m.clock }
  else m

def report [Backend ρ] (s : ChainSettings) (r : Report) (m : Meter δ ρ) : Turn × Meter δ ρ :=
  match m.deliver r with
  | (.done receipt,m) => ({ requests := [.stop] },delivered s r receipt m)
  | (.failed e,m) => ({ verdict := .failed (.reporting e) },refused s r e m)
  | (.crashed,m) => ({ verdict := .crashed },m)

def reporter [Backend ρ] (s : ChainSettings) : Filter (Meter δ ρ) where
  name := "reporter"
  handle
    | .report r,m => report s r m
    | _,m => ({},m)

def notHandled : Filter (Meter δ ρ) where
  name := "not_handled"
  handle msg m :=
    ({ requests := [.stop] },
      note (.notHandled msg.kind) { m with metrics := m.metrics.incUnhandled })

def standard [ContainerRuntime δ] [Backend ρ] (s : ChainSettings) : List (Filter (Meter δ ρ)) :=
  [logger,registry s.meterId,containerResolver,serviceResolver s.serviceKey,sampleCollector,
   reportGenerator s.meterId,reporter s,notHandled]

def named? [ContainerRuntime δ] [Backend ρ] (s : ChainSettings) (name : String) :
    Option (Filter (Meter δ ρ)) :=
  (standard s).find? (·.name == name)

end Chain

namespace Meter

variable {δ ρ : Type} [ContainerRuntime δ] [Backend ρ]

def send (s : ChainSettings) (msg : Message) (m : Meter δ ρ) : Passage × Meter δ ρ :=
  Pipeline.run (Chain.standard s) msg m

end Meter

end HostMeter
