import HostMeter.Metrics
import HostMeter.Pipeline
set_option autoImplicit false

/-! Filters that rehearse a pipeline: they write down what they are handed, or do on purpose what
filters can do. -/

namespace HostMeter

/-- The name under which the run of a message appears in traces. -/
def runName : String := "pipeline"

structure Sighting where
  probe : String
  message : Message
  stopped : Bool
  /-- The name of the run, when it was asked for in place of the message's body. -/
  run : Option String
  deriving DecidableEq, Repr

structure Observed (σ : Type) where
  state : σ
  seen : List Sighting := []

instance {σ : Type} [Journal σ] : Journal (Observed σ) where
  note n o := { o with state := note n o.state }

instance {σ : Type} [Metered σ] : Metered (Observed σ) where
  count f o := { o with state := count f o.state }

def Filter.observed {σ : Type} (f : Filter σ) : Filter (Observed σ) :=
  f.within (·.state) (fun s o => { o with state := s })

inductive Probing
  | record (runName : Bool)
  | stop
  | replace (stop : Bool)
  | fail (stop : Bool) (cause : Cause)
  | crash
  deriving DecidableEq, Repr

structure Probe where
  name : String
  only : Option String := none
  override : Option Message := none
  act : Probing
  deriving DecidableEq, Repr

namespace Probe

def stopIf (b : Bool) : List Request := if b then [.stop] else []

def requests (p : Probe) : List Request :=
  (p.override.map Request.supersede).toList++match p.act with
    | .record _ | .crash => []
    | .stop => [.stop]
    | .replace b | .fail b _ => stopIf b

def verdict (p : Probe) : Verdict :=
  match p.act with
  | .fail _ c => .failed c
  | .crash => .crashed
  | _ => .done

def sighting? (p : Probe) (m : Message) : Option Sighting :=
  match p.act with
  | .record named =>
    some ⟨p.name,m,(Context.ofRequests p.requests).stopped,if named then some runName else none⟩
  | _ => none

def concerns (p : Probe) (m : Message) : Bool := (p.only.map (· == m.kind)).getD true

def filter {σ : Type} (p : Probe) : Filter (Observed σ) where
  name := p.name
  handle m s :=
    if p.concerns m then
      (⟨p.requests,p.verdict⟩,{ s with seen := (p.sighting? m).toList++s.seen })
    else ({},s)

end Probe

end HostMeter
