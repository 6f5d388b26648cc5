import HostMeter.Configuration
set_option autoImplicit false

/-! A configuration as a document, with what the parts of an agent take from it. -/

namespace HostMeter

def milliseconds (ms : Nat) : Json := .obj [("secs",.nat (ms/1000)),("nanos",.nat (ms%1000*1000000))]

def word (n : UInt64) : Json := .nat n.toNat
def textTable (t : Table String) : Json := (Codec.table Codec.text).write t

def LogFormat.name : LogFormat → String
  | .text => "Text"
  | .json => "Json"

def LogSection.json (s : LogSection) : Json :=
  .obj [("level",.str s.level),("format",.str s.format.name)]

def CollectorSection.json (s : CollectorSection) : Json :=
  .obj [("rate_ms",word s.rateMs),("buffer_size",word s.bufferSize)]

def TrackingSection.json (s : TrackingSection) : Json :=
  .obj [("label",.str s.label),("env",.str s.env),("service_key_label",.str s.serviceKey)]

def ContainersSection.json (s : ContainersSection) : Json :=
  .obj [("driver",.str s.runtime),("cgroup_root",.str s.cgroupRoot),("proc_root",.str s.procRoot)]

def ReportingSection.json (s : ReportingSection) : Json :=
  .obj [("driver",.str s.backend),("url",Json.opt .str s.url),("method",.str s.method),
    ("receipt_header",Json.opt .str s.receiptHeader),("headers",textTable s.headers),
    ("timeout_secs",word s.timeoutSecs)]

def DispatcherSection.json (s : DispatcherSection) : Json :=
  .obj [("workers",word s.workers),("queue_size",word s.queueSize)]

namespace Configuration

def derived (c : Configuration) : Json :=
  let (a,h,p,d) := (c.agentSettings,c.httpSettings,c.policy,c.dispatcherSettings)
  .obj [("collector_rate",milliseconds a.rateMs),("collector_buffer",.nat a.samplePlaces),
    ("policy_label",.str p.label),("policy_env_key",.str p.envKey),("workers",.nat d.workers),
    ("queue_size",.nat d.places),("cgroup_root",.str c.containers.cgroupRoot),
    ("proc_root",.str c.containers.procRoot),("sample_rate",milliseconds a.rateMs),
    ("url",Json.opt .str h.url),("method",.str h.method),("receipt_header",.str h.receiptHeader),
    ("headers",textTable h.headers),("timeout",milliseconds h.timeoutMs),("version",.str h.version)]

def json (c : Configuration) : Json :=
  .obj [("instance_id",.str c.instanceId),("api_port",.nat c.apiPort.toNat),("log",c.log.json),
    ("collector",c.collector.json),("tracking",c.tracking.json),("containers",c.containers.json),
    ("reporting",c.reporting.json),("dispatcher",c.dispatcher.json),("derived",c.derived)]

end Configuration

end HostMeter
