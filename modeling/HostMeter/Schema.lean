import HostMeter.Health
import HostMeter.Report
set_option autoImplicit false

/-! The documents of the meter by the names of their types: reading one and writing it back. -/

namespace HostMeter

structure NormalForm where
  document : Json
  facts : List (String × Json) := []

/-- What is read: running text, or a value that has been taken apart. -/
inductive Given
  | text (s : String)
  | value (v : Json)

abbrev Schema := Given → Decoded NormalForm

namespace Schema

def told {α : Type} (facts : α → List (String × Json)) (c : Codec α) : Schema := fun given => do
  let a ← match given with
    | .text s => c.ofText s
    | .value v => c.ofJson v
  pure ⟨c.write a,facts a⟩

def plain {α : Type} (c : Codec α) : Schema := told (fun _ => []) c

def dataFacts (d : ReportData) : List (String × Json) :=
  [("container_name",.str d.containerName),
   ("variant",.str (match d with | .change _ => "StateChange" | .sample _ => "Sample"))]

def all : List (String × Schema) :=
  [("MachineInfo",plain Machine.codec),("ReservedResources",plain Reservation.codec),
   ("ContainerInfo",plain Container.codec),("EventType",plain EventType.codec),
   ("ContainerState",plain State.codec),("ContainerEvent",plain Event.codec),
   ("StateChange",told (fun c => [("container_name",.str c.containerName),
     ("resolved",.bool c.isResolved)]) StateChange.codec),
   ("MemoryUsage",plain MemoryUsage.codec),("InterfaceUsage",plain InterfaceUsage.codec),
   ("NetworkUsage",plain NetworkUsage.codec),("CpuUsage",plain CpuUsage.codec),
   ("DiskUsage",plain DiskUsage.codec),("Usage",plain Usage.codec),("Sample",plain Sample.codec),
   ("ReportData",told dataFacts ReportData.codec),
   ("Report",told (fun r => dataFacts r.data) Report.codec),("Receipt",plain Receipt.codec),
   ("ComponentStatus",plain Status.codec),("ComponentHealth",plain ComponentHealth.codec),
   ("HealthResponse",plain HealthSummary.codec),("ReadinessResponse",plain Readiness.codec)]

def normalForm? (name : String) (given : Given) : Option (Decoded NormalForm) :=
  (all.find? (·.1 == name)).map (fun s => s.2 given)

end Schema

end HostMeter
