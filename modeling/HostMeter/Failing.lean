import HostMeter.Backend
set_option autoImplicit false

/-! A runtime and a receiver that can be made to fail, one kind of call at a time. -/

namespace HostMeter

inductive CallFault
  | error (e : RuntimeError)
  | crash
  /-- A watch begins with its stream closed; other calls are not affected. -/
  | closed
  deriving DecidableEq, Repr

def CallFault.ofKind? (kind text : String) : Option CallFault :=
  match kind with
  | "closed" => some .closed
  | "panic" => some .crash
  | _ => (RuntimeError.ofKind? kind text).map .error

structure Faults where
  list : Option CallFault := none
  watch : Option CallFault := none
  describe : Option CallFault := none
  openUsage : Option CallFault := none
  deriving DecidableEq, Repr

def Faults.set (fs : Faults) (call : String) (f : Option CallFault) : Faults :=
  match call with
  | "list" => { fs with list := f }
  | "watch" => { fs with watch := f }
  | "get" => { fs with describe := f }
  | "open" => { fs with openUsage := f }
  | _ => fs

structure FailingRuntime (δ : Type) where
  inner : δ
  faults : Faults := {}
  deaf : List WatchId := []

structure FailingBackend (ρ : Type) where
  inner : ρ
  fault : Option DeliveryError := none

namespace FailingRuntime

variable {δ α : Type}

/-- A faulty call does not get through to the runtime behind. -/
def guarded (fault : Option CallFault) (call : δ → Outcome RuntimeError α × δ) (r : FailingRuntime δ) :
    Outcome RuntimeError α × FailingRuntime δ :=
  match fault with
  | some (.error e) => (.failed e,r)
  | some .crash => (.crashed,r)
  | _ => ((call r.inner).1,{ r with inner := (call r.inner).2 })

instance [ContainerRuntime δ] : ContainerRuntime (FailingRuntime δ) where
  labelKeys r := ContainerRuntime.labelKeys r.inner
  list r := guarded r.faults.list ContainerRuntime.list r
  describe n r := guarded r.faults.describe (ContainerRuntime.describe n) r
  openUsage n i r := guarded r.faults.openUsage (ContainerRuntime.openUsage n i) r
  watch types r :=
    match r.faults.watch,guarded r.faults.watch (ContainerRuntime.watch types) r with
    | some .closed,(.done i,r) =>
      (.done i,{ r with inner := ContainerRuntime.unwatch i r.inner, deaf := i :: r.deaf })
    | _,answer => answer
  takeEvents i r :=
    if i ∈ r.deaf then ({ ended := true },r)
    else
      let (batch,inner) := ContainerRuntime.takeEvents i r.inner
      (batch,{ r with inner })
  unwatch i r := { r with inner := ContainerRuntime.unwatch i r.inner }

end FailingRuntime

instance {ρ : Type} [Backend ρ] : Backend (FailingBackend ρ) where
  deliver r b :=
    match b.fault with
    | some e => (.failed e,b)
    | none => ((Backend.deliver r b.inner).1,{ b with inner := (Backend.deliver r b.inner).2 })

end HostMeter
