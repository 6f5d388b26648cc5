import HostMeter.Json.Value
set_option autoImplicit false

/-! Everything the meter notes down while it runs, and the line each note becomes. -/

namespace HostMeter

inductive Level
  | debug
  | info
  | warn
  | error
  deriving DecidableEq, Repr

namespace Level

def name : Level → String
  | .debug => "debug"
  | .info => "info"
  | .warn => "warn"
  | .error => "error"

def severity : Level → Nat
  | .debug => 0
  | .info => 1
  | .warn => 2
  | .error => 3

end Level

inductive Notice
  -- the registry
  | registered (name : String)
  | alreadyRegistered (name : String)
  | dropped (name : String)
  | notRegistered (name : String)
  -- the life of the meter
  | meterStarted (meter version driver reporter : String)
  | meterStopping (meter reason : String) (tracked : Nat)
  | tracking (meter name image source : String)
  | trackingEnded (meter name source : String)
  | reportAccepted (meter eventType name receipt : String)
  | reportFailed (meter eventType name error : String)
  -- collecting
  | alreadyCollected (name : String)
  | collectionStarted (name : String) (rateMs : Nat)
  | collectionStopped (name : String)
  | pollLost (name : String)
  | allCollectionsStopped (count : Nat)
  | usageEnded (name : String)
  | streamFull (name : String)
  | streamClosed (name : String)
  -- runtimes and backends
  | usageOpened (name : String)
  | reportTaken (number : Nat) (eventType name : String)
  | hierarchyUsed (root : String)
  | hierarchyWatched (root : String)
  | containersFound (count : Nat)
  | driverRegistered (name : String)
  | reporterRegistered (name : String)
  -- the pipeline
  | processing (kind : String)
  | superseded (filter kind : String)
  | processingStopped (filter : String)
  | notTrackable (name : String)
  | alreadyTracked (name : String)
  | untrackedChange (name : String)
  | unknownToDriver (name : String)
  | unresolved (name : String)
  | serviceKeyMissing (name label : String)
  | stateReached (state name : String) (service : Option String)
  | collectingAlready (name : String)
  | nothingToStop (name : String)
  | notHandled (kind : String)
  -- the dispatcher
  | dispatcherStarted (workers queue : Nat)
  | queueClosed
  | messageFailed (kind filter error : String)
  | workerCrashed
  | dispatcherDrained (processed failed : Nat)
  -- the agent
  | policyUnreachable (label env : String)
  | listingFailed (error : String)
  | discoveryComplete (count : Nat)
  | eventStreamClosed
  | untrackedEvent (name event : String)
  | notAdmitted (name : String)
  | vanished (name : String)
  | resolvingFailed (name error : String)
  | registeringFailed (name error : String)
  | dispatchFailed (error : String)
  | reportingStopped (count : Nat)
  -- the program around it
  | apiStarting (address : String)
  | apiStopped
  | apiFailed (error : String)
  | configured (instanceId : String)
  | shuttingDown (signal : String)
  | agentStopped (processed failed : Nat)
  deriving DecidableEq, Repr

structure Line where
  level : Level
  text : String
  fields : List (String × Json)
  deriving Repr

namespace Notice

def name (n : String) : String × Json := ("container.name",.str n)

def line : Notice → Line
  | .registered n => ⟨.info,"container registered",[name n]⟩
  | .alreadyRegistered n => ⟨.warn,"container already registered, ignoring",[name n]⟩
  | .dropped n => ⟨.info,"container dropped",[name n]⟩
  | .notRegistered n => ⟨.warn,"container not registered, ignoring",[name n]⟩
  | .meterStarted m v d r => ⟨.info,"Usage meter started",
      [("event",.str "meter_started"),("meter",.str m),("meter_version",.str v),
       ("container_driver",.str d),("reporting_driver",.str r)]⟩
  | .meterStopping m r t => ⟨.info,"Usage meter shutting down",
      [("event",.str "meter_shutdown"),("meter",.str m),("reason",.str r),
       ("tracked_containers",.nat t)]⟩
  | .tracking m n i s => ⟨.info,"Tracking container",
      [("event",.str "container_tracked"),("meter",.str m),name n,("container.image",.str i),
       ("source_event",.str s)]⟩
  | .trackingEnded m n s => ⟨.info,"Stopped tracking container",
      [("event",.str "container_dropped"),("meter",.str m),name n,("source_event",.str s)]⟩
  | .reportAccepted m t n r => ⟨.info,"Report accepted",
      [("event",.str "report_sent"),("meter",.str m),("report.event_type",.str t),name n,
       ("receipt",.str r)]⟩
  | .reportFailed m t n e => ⟨.warn,"Report delivery failed",
      [("event",.str "report_failed"),("meter",.str m),("report.event_type",.str t),name n,
       ("error",.str e)]⟩
  | .alreadyCollected n => ⟨.warn,"container already being collected",[name n]⟩
  | .collectionStarted n r => ⟨.info,"started collecting",[name n,("rate_ms",.nat r)]⟩
  | .collectionStopped n => ⟨.debug,"stopped collecting",[name n]⟩
  | .pollLost n => ⟨.warn,"poll loop failed",[name n]⟩
  | .allCollectionsStopped c => ⟨.info,"stopped all collections",[("count",.nat c)]⟩
  | .usageEnded n => ⟨.debug,"usage channel closed, ending collection",[name n]⟩
  | .streamFull n => ⟨.warn,"sample channel full, dropping sample",[name n]⟩
  | .streamClosed n => ⟨.debug,"sample channel closed, dropping sample",[name n]⟩
  | .usageOpened n => ⟨.debug,"opened mock usage channel",[name n]⟩
  | .reportTaken k t n => ⟨.info,"mock report",
      [("report.number",.nat k),("report.event_type",.str t),name n]⟩
  | .hierarchyUsed r => ⟨.info,"Using cgroup v2 container driver",[("root",.str r)]⟩
  | .hierarchyWatched r => ⟨.info,"Watching cgroup hierarchy",[("path",.str r)]⟩
  | .containersFound c => ⟨.info,"Discovered existing containers",[("count",.nat c)]⟩
  | .driverRegistered d => ⟨.debug,"Registered container driver",[("driver",.str d)]⟩
  | .reporterRegistered r => ⟨.debug,"Registered reporter",[("reporter",.str r)]⟩
  | .processing k => ⟨.debug,"processing "++k++" message",[]⟩
  | .superseded f k => ⟨.debug,"message superseded",[("filter",.str f),("message.kind",.str k)]⟩
  | .processingStopped f => ⟨.debug,"processing stopped",[("filter",.str f)]⟩
  | .notTrackable n => ⟨.debug,"container not trackable",[name n]⟩
  | .alreadyTracked n => ⟨.debug,"container already tracked",[name n]⟩
  | .untrackedChange n => ⟨.debug,"state change for untracked container",[name n]⟩
  | .unknownToDriver n => ⟨.debug,"container unknown to the driver",[name n]⟩
  | .unresolved n => ⟨.debug,"state change continues unresolved",[name n]⟩
  | .serviceKeyMissing n l => ⟨.warn,"service key label missing",[name n,("label",.str l)]⟩
  | .stateReached s n service => ⟨.info,"state => "++s,
      name n :: (service.map (fun v => ("service",Json.str v))).toList⟩
  | .collectingAlready n => ⟨.debug,"already collecting",[name n]⟩
  | .nothingToStop n => ⟨.debug,"no active collection to stop",[name n]⟩
  | .notHandled k => ⟨.warn,"message not handled",[("message.kind",.str k)]⟩
  | .dispatcherStarted w q => ⟨.info,"Started message dispatcher",
      [("workers",.nat w),("queue_size",.nat q)]⟩
  | .queueClosed => ⟨.debug,"dispatch queue closed",[]⟩
  | .messageFailed k f e => ⟨.error,"message processing failed",
      [("message.kind",.str k),("filter",.str f),("error",.str e)]⟩
  | .workerCrashed => ⟨.error,"dispatcher worker panicked",[]⟩
  | .dispatcherDrained p f => ⟨.info,"Message dispatcher drained",
      [("processed",.nat p),("failed",.nat f)]⟩
  | .policyUnreachable l e => ⟨.warn,"tracking policy cannot match any container of this driver",
      [("tracking.label",.str l),("tracking.env",.str e)]⟩
  | .listingFailed e => ⟨.warn,"failed to list containers at startup",[("error",.str e)]⟩
  | .discoveryComplete c => ⟨.info,"Startup discovery complete",[("containers",.nat c)]⟩
  | .eventStreamClosed => ⟨.warn,"container event stream closed",[]⟩
  | .untrackedEvent n e => ⟨.debug,"event for untracked container",[name n,("event",.str e)]⟩
  | .notAdmitted n => ⟨.debug,"container not trackable",[name n]⟩
  | .vanished n => ⟨.debug,"container vanished before it was resolved",[name n]⟩
  | .resolvingFailed n e => ⟨.warn,"failed to resolve container",[name n,("error",.str e)]⟩
  | .registeringFailed n e => ⟨.warn,"failed to register container",[name n,("error",.str e)]⟩
  | .dispatchFailed e => ⟨.warn,"failed to dispatch message",[("error",.str e)]⟩
  | .reportingStopped c => ⟨.info,"Reporting tracked containers as stopped",[("containers",.nat c)]⟩
  | .apiStarting a => ⟨.info,"Starting API server",[("addr",.str a)]⟩
  | .apiStopped => ⟨.info,"API server stopped",[]⟩
  | .apiFailed e => ⟨.error,"API server failed",[("error",.str e)]⟩
  | .configured i => ⟨.info,"Agent configured",[("instance_id",.str i)]⟩
  | .shuttingDown s => ⟨.info,"Shutting down",[("signal",.str s)]⟩
  | .agentStopped p f => ⟨.info,"Agent stopped",[("processed",.nat p),("failed",.nat f)]⟩

end Notice

def Line.json (l : Line) : Json :=
  .obj [("fields",.obj l.fields),("level",.str l.level.name),("msg",.str l.text)]

namespace Notice

def json (n : Notice) : Json := n.line.json

def sortedLines (without : List String) (ns : List Notice) : List Json :=
  let bare (l : Line) : Line := { l with fields := l.fields.filter (fun f => !without.contains f.1) }
  (ns.map (fun n => (bare n.line).json.sorted)).mergeSort (fun a b => decide (a.text ≤ b.text))

end Notice

class Journal (σ : Type) where
  note : Notice → σ → σ

export Journal (note)

end HostMeter
