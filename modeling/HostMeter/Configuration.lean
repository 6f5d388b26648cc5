import HostMeter.Agent
import HostMeter.Factories
import HostMeter.Settings.Reading
import HostMeter.Settings.Source
set_option autoImplicit false

/-! The configuration of an agent: defaults, a file over them, and the environment over both. -/

namespace HostMeter

inductive LogFormat
  | text
  | json
  deriving DecidableEq, Repr

structure LogSection where
  level : String := "info"
  format : LogFormat := .text
  deriving DecidableEq, Repr

structure CollectorSection where
  rateMs : UInt64 := 10000
  bufferSize : UInt64 := 3000
  deriving DecidableEq, Repr

structure TrackingSection where
  label : String := defaultTrackLabel
  env : String := ""
  serviceKey : String := defaultServiceKey
  deriving DecidableEq, Repr

structure ContainersSection where
  runtime : String := "cgroup"
  cgroupRoot : String := "/sys/fs/cgroup"
  procRoot : String := "/proc"
  deriving DecidableEq, Repr

structure ReportingSection where
  backend : String := "mock"
  url : Option String := none
  method : String := "POST"
  receiptHeader : Option String := none
  headers : Table String := .empty
  timeoutSecs : UInt64 := 30
  deriving DecidableEq, Repr

structure DispatcherSection where
  workers : UInt64 := 4
  queueSize : UInt64 := 1024
  deriving DecidableEq, Repr

structure Configuration where
  instanceId : String
  apiPort : UInt16 := 8080
  log : LogSection := {}
  collector : CollectorSection := {}
  tracking : TrackingSection := {}
  containers : ContainersSection := {}
  reporting : ReportingSection := {}
  dispatcher : DispatcherSection := {}
  deriving DecidableEq, Repr

inductive ConfigurationError
  | unloaded (e : SourceError)
  | unfit (e : SettingError)
  | unknownLevel (level : String)
  | zeroRate
  deriving DecidableEq, Repr

namespace Configuration

open Setting

def readLog (s : Setting) : Fitted LogSection := do
  let p ← s.parts "LogConfig"
  pure {
    level := ← p.get 0 "level" text "info"
    format := ← p.get 1 "format" (choice "LogFormat" [("text",.text),("json",.json)]) .text }

def readCollector (s : Setting) : Fitted CollectorSection := do
  let p ← s.parts "CollectorSection"
  pure {
    rateMs := ← p.get 0 "rate_ms" word64 10000
    bufferSize := ← p.get 1 "buffer_size" word64 3000 }

def readTracking (s : Setting) : Fitted TrackingSection := do
  let p ← s.parts "TrackingSection"
  pure {
    label := ← p.get 0 "label" text defaultTrackLabel
    env := ← p.get 1 "env" text ""
    serviceKey := ← p.get 2 "service_key_label" text defaultServiceKey }

def readContainers (s : Setting) : Fitted ContainersSection := do
  let p ← s.parts "ContainersSection"
  pure {
    runtime := ← p.get 0 "driver" text "cgroup"
    cgroupRoot := ← p.get 1 "cgroup_root" text "/sys/fs/cgroup"
    procRoot := ← p.get 2 "proc_root" text "/proc" }

def readReporting (s : Setting) : Fitted ReportingSection := do
  let p ← s.parts "ReportingSection"
  pure {
    backend := ← p.get 0 "driver" text "mock"
    url := ← p.get 1 "url" (optional text) none
    method := ← p.get 2 "method" text "POST"
    receiptHeader := ← p.get 3 "receipt_header" (optional text) none
    headers := ← p.get 4 "headers" texts .empty
    timeoutSecs := ← p.get 5 "timeout_secs" word64 30 }

def readDispatcher (s : Setting) : Fitted DispatcherSection := do
  let p ← s.parts "DispatcherSection"
  pure {
    workers := ← p.get 0 "workers" word64 4
    queueSize := ← p.get 1 "queue_size" word64 1024 }

/-- All sections; `ownId` is what the agent calls itself when nothing else is said. -/
def read (ownId : String) (s : Setting) : Fitted Configuration := do
  let p ← s.parts "AgentConfig"
  pure {
    instanceId := ← p.get 0 "instance_id" text ownId
    apiPort := ← p.get 1 "api_port" word16 8080
    log := ← p.get 2 "log" readLog {}
    collector := ← p.get 3 "collector" readCollector {}
    tracking := ← p.get 4 "tracking" readTracking {}
    containers := ← p.get 5 "containers" readContainers {}
    reporting := ← p.get 6 "reporting" readReporting {}
    dispatcher := ← p.get 7 "dispatcher" readDispatcher {} }

def levels : List String := ["error","warn","info","debug"]

def validate (c : Configuration) : Except ConfigurationError Configuration :=
  if !levels.contains c.log.level then .error (.unknownLevel c.log.level)
  else if c.collector.rateMs = 0 then .error .zeroRate
  else .ok c

def variablePrefix : String := "meter__"
def nodeVariable : String := "NODE_NAME"

/-- The name of the node, or else a name drawn for this run. -/
def ownId (s : Surroundings) (drawn : String) : String :=
  ((s.var? nodeVariable).filter (· ≠ "")).getD drawn

/-- The settings of a file, if one is named, and of the environment over them. -/
def settings (s : Surroundings) (file : Option String) : Except SourceError Setting := do
  let entries ← match file with
    | some name => fileEntries s name
    | none => .ok []
  pure (lay (variableEntries variablePrefix s.env) (lay entries Setting.empty))

def load (s : Surroundings) (file : Option String) (drawn : String) :
    Except ConfigurationError Configuration :=
  match settings s file with
  | .error e => .error (.unloaded e)
  | .ok tree =>
    match read (ownId s drawn) tree with
    | .error e => .error (.unfit e)
    | .ok c => validate c

end Configuration

namespace ConfigurationError

def message : ConfigurationError → String
  | .unloaded _ => "Failed to load configuration"
  | .unfit _ => "Invalid configuration"
  | .unknownLevel level =>
    "invalid log level '"++level++"', expected one of: "++", ".intercalate Configuration.levels
  | .zeroRate => "collector.rate_ms must be greater than zero"

def cause? : ConfigurationError → Option String
  | .unloaded e => some e.message
  | .unfit e => some e.message
  | _ => none

end ConfigurationError

namespace Configuration

def policy (c : Configuration) : Policy := .ofParts c.tracking.label c.tracking.env

def dispatcherSettings (c : Configuration) : DispatcherSettings :=
  ⟨c.dispatcher.workers.toNat,c.dispatcher.queueSize.toNat⟩

def httpSettings (c : Configuration) : HttpSettings :=
  let absent : HttpSettings := {}
  { absent with
    url := c.reporting.url
    method := c.reporting.method
    receiptHeader := c.reporting.receiptHeader.getD absent.receiptHeader
    headers := c.reporting.headers
    timeoutMs := c.reporting.timeoutSecs.toNat*1000 }

def agentSettings (c : Configuration) : AgentSettings where
  meterId := c.instanceId
  policy := c.policy
  serviceKey := c.tracking.serviceKey
  rateMs := c.collector.rateMs.toNat
  samplePlaces := c.collector.bufferSize.toNat
  dispatcher := c.dispatcherSettings

def runtimeSettings (c : Configuration) (s : Surroundings) (host : Cgroup.HostFacts)
    (clock : Timestamp) : RuntimeSettings where
  files := s.files
  host
  rootText := c.containers.cgroupRoot
  root := s.path c.containers.cgroupRoot
  proc := s.path c.containers.procRoot
  rateMs := c.collector.rateMs.toNat
  clock

end Configuration

end HostMeter
