import HostMeter.Lifecycle
import HostMeter.Usage
set_option autoImplicit false

/-! Samples, the reports that carry them or a state change, and the proof of acceptance. -/

namespace HostMeter

/-- A reading taken while a container was being collected, with the interval in effect. -/
structure Sample where
  container : Container
  usage : Usage
  timestamp : Timestamp
  frameMs : UInt64
  deriving DecidableEq, Repr

namespace Sample

def codec : Codec Sample :=
  .record "Sample"
    (.more (.required "container" Container.codec) <| .more (.required "usage" Usage.codec) <|
      .more (.required "timestamp" .int64) <| .more (.required "frame_size_ms" .word64) .done)
    (fun s => (s.container,s.usage,s.timestamp,s.frameMs,()))
    (fun (c,u,t,f,()) => ⟨c,u,t,f⟩)

end Sample

inductive ReportData
  | change (c : StateChange)
  | sample (s : Sample)
  deriving DecidableEq, Repr

namespace ReportData

def codec : Codec ReportData :=
  .mapped (.either "ReportData" StateChange.codec Sample.codec)
    (fun d => match d with | .change c => .inl c | .sample s => .inr s)
    (fun s => match s with | .inl c => .change c | .inr s => .sample s)

def containerName : ReportData → String
  | .change c => c.containerName
  | .sample s => s.container.name

end ReportData

structure Report where
  meterId : String
  eventType : String
  timestamp : Timestamp
  data : ReportData
  deriving DecidableEq, Repr

namespace Report

def codec : Codec Report :=
  .record "Report"
    (.more (.required "meter_id" .text) <| .more (.required "event_type" .text) <|
      .more (.required "timestamp" .int64) <| .more (.required "data" ReportData.codec) .done)
    (fun r => (r.meterId,r.eventType,r.timestamp,r.data,()))
    (fun (m,e,t,d,()) => ⟨m,e,t,d⟩)

def ofSample (meterId : String) (s : Sample) (now : Timestamp) : Report :=
  ⟨meterId,"stat_sample",now,.sample s⟩

def ofChange (meterId : String) (c : StateChange) (now : Timestamp) : Report :=
  ⟨meterId,"state_change",now,.change c⟩

def containerName (r : Report) : String := r.data.containerName

end Report

structure Receipt where
  text : String
  deriving DecidableEq, Repr

def Receipt.codec : Codec Receipt := .mapped .text Receipt.text Receipt.mk

end HostMeter
