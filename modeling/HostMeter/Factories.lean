import HostMeter.Cgroup.Host
import HostMeter.Fleet
import HostMeter.HttpBackend
import HostMeter.Inbox
set_option autoImplicit false

/-! Runtimes and receivers by the names a configuration gives them. -/

namespace HostMeter

inductive FactoryError
  | duplicate (kind name : String)
  | unknown (kind name : String)
  | runtime (e : RuntimeError)
  | backend (e : DeliveryError)
  deriving DecidableEq, Repr

def FactoryError.message : FactoryError → String
  | .duplicate kind name => kind++" '"++name++"' is already registered"
  | .unknown kind name => "unknown "++kind++" '"++name++"'"
  | .runtime e => e.message
  | .backend e => e.message

def FactoryError.chain : FactoryError → List String
  | .runtime e => e.chain
  | .backend e => e.chain
  | e => [e.message]

inductive RuntimeKind
  | cgroup
  | mock
  deriving DecidableEq, Repr

inductive BackendKind
  | mock
  | http
  deriving DecidableEq, Repr

structure RuntimeSettings where
  files : FileTree
  host : Cgroup.HostFacts
  rootText : String
  root : Path
  proc : Path
  rateMs : Nat
  clock : Timestamp := 0

structure BackendSettings where
  http : HttpSettings := {}
  network : HttpRequest → Option HttpResponse := fun _ => none

inductive AnyRuntime
  | cgroup (h : Cgroup.Host)
  | mock (f : Fleet)

inductive AnyBackend
  | http (b : Online)
  | mock (b : Inbox)

namespace AnyRuntime

def ask {α : Type} (onHost : Cgroup.Host → α × Cgroup.Host) (onFleet : Fleet → α × Fleet) :
    AnyRuntime → α × AnyRuntime
  | .cgroup h => ((onHost h).1,.cgroup (onHost h).2)
  | .mock f => ((onFleet f).1,.mock (onFleet f).2)

instance : ContainerRuntime AnyRuntime where
  labelKeys
    | .cgroup h => ContainerRuntime.labelKeys h
    | .mock f => ContainerRuntime.labelKeys f
  list := ask ContainerRuntime.list ContainerRuntime.list
  describe n := ask (ContainerRuntime.describe n) (ContainerRuntime.describe n)
  openUsage n i := ask (ContainerRuntime.openUsage n i) (ContainerRuntime.openUsage n i)
  watch types := ask (ContainerRuntime.watch types) (ContainerRuntime.watch types)
  takeEvents w := ask (ContainerRuntime.takeEvents w) (ContainerRuntime.takeEvents w)
  unwatch w
    | .cgroup h => .cgroup (ContainerRuntime.unwatch w h)
    | .mock f => .mock (ContainerRuntime.unwatch w f)

def notices : AnyRuntime → List Notice
  | .cgroup h => h.log.reverse
  | .mock _ => []

end AnyRuntime

instance : Backend AnyBackend where
  deliver r
    | .http b => ((Backend.deliver r b).1,.http (Backend.deliver r b).2)
    | .mock b => ((Backend.deliver r b).1,.mock (Backend.deliver r b).2)

structure Factories where
  runtimes : Table RuntimeKind := .empty
  backends : Table BackendKind := .empty
  deriving DecidableEq, Repr

namespace Factories

def runtimeWord : String := "driver"
def backendWord : String := "reporter"

def standardRuntimes : List (String × RuntimeKind) := [("cgroup",.cgroup),("mock",.mock)]

def standardBackends : List (String × BackendKind) := [("mock",.mock),("http",.http)]

def standard : Factories := ⟨.ofList standardRuntimes,.ofList standardBackends⟩

def standardNotices : List Notice :=
  standardRuntimes.map (fun r => .driverRegistered r.1)
    ++standardBackends.map (fun b => .reporterRegistered b.1)

/-- A name is given once. -/
def enter {α : Type} (kind name : String) (a : α) (t : Table α) : Except FactoryError (Table α) :=
  if t.contains name then .error (.duplicate kind name) else .ok (t.insert name a)

def registerRuntime (name : String) (k : RuntimeKind) (f : Factories) :
    Except FactoryError Factories :=
  (enter runtimeWord name k f.runtimes).map (fun runtimes => { f with runtimes })

def registerBackend (name : String) (k : BackendKind) (f : Factories) :
    Except FactoryError Factories :=
  (enter backendWord name k f.backends).map (fun backends => { f with backends })

def createRuntime (name : String) (s : RuntimeSettings) (f : Factories) :
    Except FactoryError AnyRuntime :=
  match f.runtimes.get? name with
  | none => .error (.unknown runtimeWord name)
  | some .mock => .ok (.mock {})
  | some .cgroup =>
    match Cgroup.Hierarchy.open? s.files s.host s.rootText s.root s.proc s.rateMs with
    | .ok hierarchy =>
      .ok (.cgroup (note (.hierarchyUsed s.rootText) { files := s.files, hierarchy, clock := s.clock }))
    | .error e => .error (.runtime e)

def createBackend (name : String) (s : BackendSettings) (f : Factories) :
    Except FactoryError AnyBackend :=
  match f.backends.get? name with
  | none => .error (.unknown backendWord name)
  | some .mock => .ok (.mock {})
  | some .http =>
    match HttpBackend.ofSettings s.http with
    | .ok b => .ok (.http ⟨b,s.network⟩)
    | .error e => .error (.backend e)

end Factories

end HostMeter
