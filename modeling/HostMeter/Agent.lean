import HostMeter.Chain
import HostMeter.Dispatcher
set_option autoImplicit false

/-! The agent wires a runtime, the collector and the standard chain together. Containers found at
its start are sent as discoveries, events become state changes of containers that are tracked or can
be, samples are passed on. At its end every container still tracked gets a final stop. -/

namespace HostMeter

def defaultTrackLabel : String := "com.usage-meter.track"
def defaultServiceKey : String := "com.usage-meter.service"

structure AgentSettings where
  meterId : String
  policy : Policy := .ofParts defaultTrackLabel ""
  serviceKey : String := defaultServiceKey
  rateMs : Nat := 10000
  samplePlaces : Nat := 3000
  dispatcher : DispatcherSettings := {}
  deriving DecidableEq, Repr

/-- Whether a policy can match any container of a runtime that sets only such label keys. -/
def Policy.reachable (p : Policy) (labelKeys : Option (List String)) : Bool :=
  p.envKey ≠ "" || match labelKeys with
    | some keys => keys.contains p.label
    | none => p.label ≠ ""

structure Agent (δ ρ : Type) where
  chain : ChainSettings
  meter : Meter δ ρ
  dispatcher : Dispatcher
  /-- The watch on the runtime's events, until its stream ends. -/
  watch : Option WatchId := none

namespace Agent

variable {δ ρ : Type} [ContainerRuntime δ] [Backend ρ]

def filters (a : Agent δ ρ) : List (Filter (Meter δ ρ)) := Chain.standard a.chain

def onMeter (f : Meter δ ρ → Meter δ ρ) (a : Agent δ ρ) : Agent δ ρ := { a with meter := f a.meter }

def unhealthy (component message : String) (m : Meter δ ρ) : Meter δ ρ :=
  { m with health := m.health.setUnhealthy component message m.clock }

/-- Queues a message; a closed queue shows in the health of the dispatcher. -/
def dispatch (msg : Message) (a : Agent δ ρ) : Agent δ ρ :=
  match a.dispatcher.dispatch a.filters msg a.meter with
  | (true,d,m) => { a with dispatcher := d, meter := m }
  | (false,d,m) =>
    { a with
      dispatcher := d
      meter := unhealthy Health.dispatcher Dispatcher.closedMessage
        (note (.dispatchFailed Dispatcher.closedMessage) m) }

def dispatchAll (ms : List Message) (a : Agent δ ρ) : Agent δ ρ :=
  ms.foldl (fun a m => a.dispatch m) a

def settle (a : Agent δ ρ) : Agent δ ρ :=
  let (d,m) := a.dispatcher.settle a.filters a.meter
  { a with dispatcher := d, meter := m }

/-- Looks up a container that has begun to run, and tracks it when the policy allows that. -/
def enlist (meterId : String) (e : Event) (m : Meter δ ρ) : Option Container × Meter δ ρ :=
  match m.describe e.containerName with
  | (.failed (.notFound _),m) => (none,note (.vanished e.containerName) m)
  | (.failed err,m) => (none,note (.resolvingFailed e.containerName err.message) m)
  | (.crashed,m) => (none,m)
  | (.done info,m) =>
    if !m.registry.isTrackable info then (none,note (.notAdmitted e.containerName) m)
    else
      match m.register info with
      | (.added,m) =>
        (some info,note (.tracking meterId info.name info.imageName e.type.tag) m.countTracked)
      | (.present,m) => (m.registry.get? e.containerName,m)
      | (.notTrackable,m) =>
        (none,note (.registeringFailed e.containerName (Registry.notTrackableMessage info.name)) m)

/-- The descriptor an event goes on with: the registered one, or that of a container it admits. -/
def subject (meterId : String) (e : Event) (m : Meter δ ρ) : Option Container × Meter δ ρ :=
  match m.registry.get? e.containerName with
  | some info => (some info,m)
  | none =>
    if State.ofEvent e.type = .running then enlist meterId e m
    else (none,note (.untrackedEvent e.containerName e.type.tag) m)

def handleEvent (e : Event) (a : Agent δ ρ) : Agent δ ρ :=
  match subject a.chain.meterId e a.meter with
  | (some info,m) =>
    dispatch (.change ((StateChange.ofEvent e).withContainer info)) { a with meter := m }
  | (none,m) => { a with meter := m }

def handleEvents (es : List Event) (a : Agent δ ρ) : Agent δ ρ :=
  es.foldl (fun a e => a.handleEvent e) a

def receive (a : Agent δ ρ) : Agent δ ρ :=
  match a.watch with
  | none => a
  | some w =>
    let (batch,runtime) := ContainerRuntime.takeEvents w a.meter.runtime
    let a := handleEvents batch.events { a with meter := { a.meter with runtime } }
    if batch.ended then
      { a with
        watch := none
        meter :=
          unhealthy Health.eventWatcher "event stream closed" (note .eventStreamClosed a.meter) }
    else a

def forward (a : Agent δ ρ) : Agent δ ρ :=
  let (ss,m) := a.meter.drainStream
  dispatchAll (ss.map .sample) { a with meter := m }

def idle (a : Agent δ ρ) : Agent δ ρ := a.receive.settle.forward.settle

def advance (ms : Nat) (a : Agent δ ρ) : Agent δ ρ :=
  Clock.runTo (·.meter.collector.nextDue) (fun t a => (a.onMeter (·.instant t)).idle)
    (a.meter.collector.now+ms) a.meter.collector.now a

def components : List String :=
  [Health.eventWatcher,Health.collector,Health.reporter,Health.dispatcher]

def ofSettings (s : AgentSettings) (runtime : δ) (backend : ρ) (health : Health) (clock : Timestamp) :
    Agent δ ρ where
  chain := { meterId := s.meterId, serviceKey := s.serviceKey }
  meter :=
    { registry := ⟨s.policy,.empty⟩, collector := .ofSettings s.rateMs s.samplePlaces
      runtime, backend, health, clock }
  dispatcher := .ofSettings s.dispatcher

/-- Warns of a policy that cannot match anything and enters the components as healthy. -/
def prepare (m : Meter δ ρ) : Meter δ ρ :=
  let p := m.registry.policy
  let m :=
    if p.reachable (ContainerRuntime.labelKeys m.runtime) then m
    else note (.policyUnreachable p.label p.envKey) m
  { m with health := components.foldl (fun h c => h.register c m.clock) m.health }

def discover (a : Agent δ ρ) : Agent δ ρ :=
  match ContainerRuntime.list a.meter.runtime with
  | (.done cs,runtime) =>
    let a := dispatchAll (cs.map .discovery) { a with meter := { a.meter with runtime } }
    a.onMeter (note (.discoveryComplete cs.length))
  | (.failed e,runtime) =>
    let m := note (.listingFailed e.message) { a.meter with runtime }
    { a with meter := note (.discoveryComplete 0) m }
  | (.crashed,runtime) => { a with meter := { a.meter with runtime } }

structure Summary where
  processed : Nat
  failed : Nat
  deriving DecidableEq, Repr

def drain (a : Agent δ ρ) : Summary × Agent δ ρ :=
  let (d,m) := a.dispatcher.shutdown a.filters a.meter
  (⟨d.processed,d.failed⟩,{ a with dispatcher := d, meter := m })

def failureChain (e : RuntimeError) : List String := "error watching container events" :: e.chain

def failureMessage (e : RuntimeError) : String := ": ".intercalate (failureChain e)

/-- Watches before it lists, so that nothing created in between is missed. -/
def start (s : DispatcherSettings) (a : Agent δ ρ) : Except RuntimeError Unit × Agent δ ρ :=
  let (d,m) := Dispatcher.start s (prepare a.meter)
  match ContainerRuntime.watch watchedTypes m.runtime with
  | (.done w,runtime) =>
    let a := discover { a with dispatcher := d, meter := { m with runtime }, watch := some w }
    (.ok (),a.onMeter (fun m => { m with health := { m.health with started := true } }))
  | (.failed e,runtime) =>
    let m := unhealthy Health.eventWatcher e.message { m with runtime }
    (.error e,(drain { a with dispatcher := d, meter := m }).2)
  | (.crashed,runtime) => (.ok (),{ a with dispatcher := d, meter := { m with runtime } })

def closeAll (is : List ChannelId) (m : Meter δ ρ) : Meter δ ρ :=
  is.foldl (fun m i => m.closeChannel i) m

def stopSampling (m : Meter δ ρ) : Meter δ ρ :=
  let (is,m) := m.stopAll
  closeAll is m

def stopReason : String := "shutdown signal received"

/-- Stops sampling, reports every tracked container as stopped, drains the queue, and stops what
discoveries still in the queue have started. -/
def shutdown (a : Agent δ ρ) : Summary × Agent δ ρ :=
  let runtime := match a.watch with
    | some w => ContainerRuntime.unwatch w a.meter.runtime
    | none => a.meter.runtime
  let tracked := a.meter.registry.list
  let m := note (.reportingStopped tracked.length) (stopSampling { a.meter with runtime })
  let stops := tracked.map fun c => Message.change (.ofEvent (.meterShutdown c m.clock))
  let (summary,a) := (dispatchAll stops { a with meter := m, watch := none }).drain
  (summary,a.onMeter fun m =>
    note (.meterStopping a.chain.meterId stopReason tracked.length) (stopSampling m))

end Agent

end HostMeter
