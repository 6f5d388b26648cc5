import HostMeter.Json.Codec
set_option autoImplicit false

/-! One reading of what a container has used. The meter carries it through without looking inside. -/

namespace HostMeter

structure MemoryUsage where
  bytes : UInt64
  deriving DecidableEq, Repr

structure InterfaceUsage where
  name : String
  rxBytes : UInt64
  txBytes : UInt64
  deriving DecidableEq, Repr

structure NetworkUsage where
  totalRxBytes : UInt64
  totalTxBytes : UInt64
  interfaces : List InterfaceUsage
  deriving DecidableEq, Repr

/-- Processor time in nanoseconds. -/
structure CpuUsage where
  total : UInt64
  perCore : List UInt64 := []
  deriving DecidableEq, Repr

/-- Bytes read and written, a number per device. -/
structure DiskUsage where
  perDevice : List UInt64
  deriving DecidableEq, Repr

structure Usage where
  cpu : Option CpuUsage := none
  memory : Option MemoryUsage := none
  network : Option NetworkUsage := none
  disk : Option DiskUsage := none
  deriving DecidableEq, Repr

def MemoryUsage.codec : Codec MemoryUsage :=
  .record "MemoryUsage" (.more (.required "bytes" .word64) .done)
    (fun m => (m.bytes,())) (fun (b,()) => ⟨b⟩)

def InterfaceUsage.codec : Codec InterfaceUsage :=
  .record "InterfaceUsage"
    (.more (.required "name" .text) <| .more (.required "rx_bytes" .word64) <|
      .more (.required "tx_bytes" .word64) .done)
    (fun i => (i.name,i.rxBytes,i.txBytes,()))
    (fun (n,r,t,()) => ⟨n,r,t⟩)

def NetworkUsage.codec : Codec NetworkUsage :=
  .record "NetworkUsage"
    (.more (.required "total_rx_bytes" .word64) <| .more (.required "total_tx_bytes" .word64) <|
      .more (.defaulted "interfaces" (.list InterfaceUsage.codec) []) .done)
    (fun n => (n.totalRxBytes,n.totalTxBytes,n.interfaces,()))
    (fun (r,t,i,()) => ⟨r,t,i⟩)

def CpuUsage.codec : Codec CpuUsage :=
  .record "CpuUsage" (.more (.required "total" .word64) <| .more (.listing "per_core" .word64) .done)
    (fun c => (c.total,c.perCore,())) (fun (t,p,()) => ⟨t,p⟩)

def DiskUsage.codec : Codec DiskUsage :=
  .record "DiskUsage" (.more (.listing "per_disk_io_bytes" .word64) .done)
    (fun d => (d.perDevice,())) (fun (p,()) => ⟨p⟩)

def Usage.codec : Codec Usage :=
  .record "Usage"
    (.more (.optional "cpu" CpuUsage.codec) <| .more (.optional "memory" MemoryUsage.codec) <|
      .more (.optional "network" NetworkUsage.codec) <| .more (.optional "disk" DiskUsage.codec) .done)
    (fun u => (u.cpu,u.memory,u.network,u.disk,()))
    (fun (c,m,n,d,()) => ⟨c,m,n,d⟩)

end HostMeter
