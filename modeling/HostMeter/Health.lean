import HostMeter.Lifecycle
set_option autoImplicit false

/-! Health of the meter's components and the readiness that follows from it. -/

namespace HostMeter

inductive Status
  | healthy
  | degraded
  | unhealthy
  deriving DecidableEq, Repr

namespace Status

def name : Status → String
  | .healthy => "healthy"
  | .degraded => "degraded"
  | .unhealthy => "unhealthy"

def all : List Status := [.healthy,.degraded,.unhealthy]

def severity : Status → Nat
  | .healthy => 0
  | .degraded => 1
  | .unhealthy => 2

def worse (a b : Status) : Status := if a.severity < b.severity then b else a

/-- The worst of several; healthy when there are none. -/
def worst (ss : List Status) : Status := ss.foldl worse .healthy

def codec : Codec Status := .oneOf (all.map (fun s => (s.name,s))) name

theorem severity_worse (a b : Status) : (worse a b).severity = max a.severity b.severity := by
  cases a <;> cases b <;> rfl

end Status

structure ComponentHealth where
  status : Status
  message : Option String
  updatedAt : Timestamp
  deriving DecidableEq, Repr

def ComponentHealth.codec : Codec ComponentHealth :=
  .record "ComponentHealth"
    (.more (.required "status" Status.codec) <| .more (.placed "message" .text) <|
      .more (.required "updated_at" .int64) .done)
    (fun h => (h.status,h.message,h.updatedAt,()))
    (fun (s,m,u,()) => ⟨s,m,u⟩)

structure HealthSummary where
  status : Status
  components : Table ComponentHealth
  deriving DecidableEq, Repr

def HealthSummary.codec : Codec HealthSummary :=
  .record "HealthResponse"
    (.more (.required "status" Status.codec) <|
      .more (.required "components" (.table ComponentHealth.codec)) .done)
    (fun h => (h.status,h.components,()))
    (fun (s,c,()) => ⟨s,c⟩)

structure Readiness where
  ready : Bool
  reason : Option String
  deriving DecidableEq, Repr

def Readiness.codec : Codec Readiness :=
  .record "ReadinessResponse"
    (.more (.required "ready" .bool) <| .more (.placed "reason" .text) .done)
    (fun r => (r.ready,r.reason,()))
    (fun (r,m,()) => ⟨r,m⟩)

/-- What is known of every component, and whether the meter has finished starting. -/
structure Health where
  components : Table ComponentHealth := .empty
  started : Bool := false
  deriving DecidableEq, Repr

namespace Health

def eventWatcher : String := "event_watcher"
def collector : String := "collector"
def reporter : String := "reporter"
def dispatcher : String := "dispatcher"

def update (h : Health) (name : String) (c : ComponentHealth) : Health :=
  { h with components := h.components.insert name c }

def setHealthy (h : Health) (name : String) (now : Timestamp) : Health :=
  h.update name ⟨.healthy,none,now⟩

def setDegraded (h : Health) (name message : String) (now : Timestamp) : Health :=
  h.update name ⟨.degraded,some message,now⟩

def setUnhealthy (h : Health) (name message : String) (now : Timestamp) : Health :=
  h.update name ⟨.unhealthy,some message,now⟩

/-- A component starts out healthy. -/
def register (h : Health) (name : String) (now : Timestamp) : Health := h.setHealthy name now

def component? (h : Health) (name : String) : Option ComponentHealth := h.components.get? name

def summary (h : Health) : HealthSummary :=
  ⟨Status.worst (h.components.values.map (·.status)),h.components⟩

def unhealthy (h : Health) : List String :=
  (h.components.filter (fun _ c => c.status = .unhealthy)).keys

/-- Ready once started and while nothing is unhealthy. -/
def readiness (h : Health) : Readiness :=
  if !h.started then ⟨false,some "Meter not yet initialized"⟩
  else match h.unhealthy with
    | [] => ⟨true,none⟩
    | names => ⟨false,some ("Unhealthy components: "++", ".intercalate names)⟩

end Health

end HostMeter
