import HostMeter.Json.Codec
set_option autoImplicit false

/-! Containers as the runtime describes them. -/

namespace HostMeter

structure Machine where
  systemUuid : String
  cores : UInt32
  memoryBytes : UInt64
  cpuFrequencyKhz : UInt64
  deriving DecidableEq, Repr

/-- Capacity set aside for a container, in cores and bytes. -/
structure Reservation where
  cpu : Binary64
  memory : UInt64
  deriving DecidableEq, Repr

structure Container where
  name : String
  labels : Table String := .empty
  env : Table String := .empty
  imageName : String := ""
  imageTag : String := ""
  machine : Option Machine := none
  reserved : Option Reservation := none
  deriving DecidableEq, Repr

namespace Machine

def codec : Codec Machine :=
  .record "MachineInfo"
    (.more (.required "system_uuid" .text) <| .more (.required "cores" .word32) <|
      .more (.required "memory_bytes" .word64) <| .more (.required "cpu_frequency_khz" .word64) .done)
    (fun m => (m.systemUuid,m.cores,m.memoryBytes,m.cpuFrequencyKhz,()))
    (fun (u,c,b,f,()) => ⟨u,c,b,f⟩)

end Machine

namespace Reservation

def codec : Codec Reservation :=
  .record "ReservedResources"
    (.more (.required "cpu" .double) <| .more (.required "memory" .word64) .done)
    (fun r => (r.cpu,r.memory,()))
    (fun (c,m,()) => ⟨c,m⟩)

end Reservation

namespace Container

def codec : Codec Container :=
  .record "ContainerInfo"
    (.more (.required "name" .text) <|
      .more (.defaulted "labels" (.table .text) .empty) <|
      .more (.defaulted "env" (.table .text) .empty) <|
      .more (.defaulted "image_name" .text "") <|
      .more (.defaulted "image_tag" .text "") <|
      .more (.optional "machine" Machine.codec) <|
      .more (.optional "reserved" Reservation.codec) .done)
    (fun c => (c.name,c.labels,c.env,c.imageName,c.imageTag,c.machine,c.reserved,()))
    (fun (n,l,e,i,t,m,r,()) => ⟨n,l,e,i,t,m,r⟩)

def withLabel (c : Container) (key value : String) : Container :=
  { c with labels := c.labels.insert key value }

/-- Environment keys are kept in lower case. -/
def withEnv (c : Container) (key value : String) : Container :=
  { c with env := c.env.insert key.toLower value }

def withImage (c : Container) (name tag : String) : Container :=
  { c with imageName := name, imageTag := tag }

def label? (c : Container) (key : String) : Option String := c.labels.get? key

@[simp] theorem withLabel_name (c : Container) (k v : String) : (c.withLabel k v).name = c.name := rfl
@[simp] theorem withEnv_name (c : Container) (k v : String) : (c.withEnv k v).name = c.name := rfl
@[simp] theorem withImage_name (c : Container) (n t : String) : (c.withImage n t).name = c.name := rfl

end Container

end HostMeter
