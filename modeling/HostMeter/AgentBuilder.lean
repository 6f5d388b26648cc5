import HostMeter.Agent
set_option autoImplicit false

/-! An agent put together from its parts. -/

namespace HostMeter

inductive MissingPart
  | meterId
  | runtime
  | backend
  deriving DecidableEq, Repr

def MissingPart.message : MissingPart → String
  | .meterId => "meter_id is required"
  | .runtime => "driver is required"
  | .backend => "reporter is required"

structure AgentParts (δ ρ : Type) where
  meterId : Option String := none
  runtime : Option δ := none
  backend : Option ρ := none
  policy : Policy := .ofParts defaultTrackLabel ""
  health : Health := {}

/-- The first part missing is the one complained about. -/
def AgentParts.build {δ ρ : Type} [ContainerRuntime δ] [Backend ρ] (p : AgentParts δ ρ)
    (clock : Timestamp) : Except MissingPart (Agent δ ρ) :=
  match p.meterId,p.runtime,p.backend with
  | none,_,_ => .error .meterId
  | _,none,_ => .error .runtime
  | _,_,none => .error .backend
  | some meterId,some runtime,some backend =>
    .ok (.ofSettings { meterId, policy := p.policy } runtime backend p.health clock)

end HostMeter
