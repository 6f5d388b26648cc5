import HostMeter.Health
import HostMeter.Metrics
import HostMeter.Tracking
set_option autoImplicit false

/-! What the meter answers to requests about itself: its health, its readiness, its counters and the
containers it tracks. -/

namespace HostMeter

structure ApiState where
  health : Health
  registry : Registry
  metrics : Metrics

inductive ApiBody
  | empty
  | document (v : Json)
  | exposition (m : Metrics)

structure ApiResponse where
  status : Nat
  contentType : Option String := none
  allow : Option String := none
  body : ApiBody := .empty

namespace Api

def document (status : Nat) (v : Json) : ApiResponse :=
  { status, contentType := some "application/json", body := .document v }

def unavailable : Nat := 503

/-- A meter that is merely degraded is still up. -/
def healthz (h : Health) : ApiResponse :=
  let s := h.summary
  document (if s.status = .unhealthy then unavailable else 200) (HealthSummary.codec.write s)

def readyz (h : Health) : ApiResponse :=
  let r := h.readiness
  document (if r.ready then 200 else unavailable) (Readiness.codec.write r)

def metrics (m : Metrics) : ApiResponse :=
  { status := 200, contentType := some "text/plain; charset=utf-8", body := .exposition m }

def containers (r : Registry) : ApiResponse := document 200 (.arr (r.list.map Container.codec.write))

def resource? (path : String) (s : ApiState) : Option ApiResponse :=
  match path with
  | "/healthz" => some (healthz s.health)
  | "/readyz" => some (readyz s.health)
  | "/metrics" => some (metrics s.metrics)
  | "/containers" => some (containers s.registry)
  | _ => none

def pathOf (target : String) : String :=
  String.ofList (target.toList.takeWhile (fun c => c ≠ '?' && c ≠ '#'))

/-- Everything can be read and nothing be changed. -/
def answer (method target : String) (s : ApiState) : ApiResponse :=
  match resource? (pathOf target) s with
  | none => { status := 404 }
  | some r =>
    match method with
    | "GET" => r
    | "HEAD" => { r with body := .empty }
    | _ => { status := 405, allow := some "GET,HEAD" }

end Api

end HostMeter
