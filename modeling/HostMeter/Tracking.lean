import HostMeter.Container
import HostMeter.Notice
set_option autoImplicit false

/-! Which containers are tracked. The policy admits a container for a label or for an environment
variable, the registry keeps the first descriptor registered under each name. -/

namespace HostMeter

/-- Equality of names that makes no difference between upper and lower case letters of ASCII. -/
def sameFolded (a b : String) : Bool := a.toLower == b.toLower

/-- An empty part never matches. -/
structure Policy where
  label : String
  envKey : String
  deriving DecidableEq, Repr

namespace Policy

def ofParts (label envKey : String) : Policy := ⟨label,envKey.toLower⟩

def labelMatches (p : Policy) (c : Container) : Bool := p.label ≠ "" && c.labels.contains p.label

def envMatches (p : Policy) (c : Container) : Bool :=
  p.envKey ≠ "" && c.env.keys.any (fun k => sameFolded k p.envKey)

def isTrackable (p : Policy) (c : Container) : Bool := p.labelMatches c || p.envMatches c

end Policy

inductive Registration
  | added
  | present
  | notTrackable
  deriving DecidableEq, Repr

def Registration.notices : Registration → String → List Notice
  | .added,n => [.registered n]
  | .present,n => [.alreadyRegistered n]
  | .notTrackable,_ => []

structure Registry where
  policy : Policy
  containers : Table Container := .empty
  deriving DecidableEq, Repr

namespace Registry

def isTrackable (r : Registry) (c : Container) : Bool := r.policy.isTrackable c
def get? (r : Registry) (name : String) : Option Container := r.containers.get? name
def isRegistered (r : Registry) (name : String) : Bool := r.containers.contains name
def size (r : Registry) : Nat := r.containers.size

def list (r : Registry) : List Container := r.containers.values
def names (r : Registry) : List String := r.containers.keys

/-- A name that is taken keeps its first descriptor. -/
def register (r : Registry) (c : Container) : Registration × Registry :=
  if !r.isTrackable c then (.notTrackable,r)
  else if r.isRegistered c.name then (.present,r)
  else (.added,{ r with containers := r.containers.insert c.name c })

def drop (r : Registry) (name : String) : Bool × Registry :=
  (r.isRegistered name,{ r with containers := r.containers.erase name })

def dropNotice (was : Bool) (name : String) : Notice :=
  if was then .dropped name else .notRegistered name

def notTrackableMessage (name : String) : String := "the registry cannot track container "++name

@[simp] theorem register_policy (r : Registry) (c : Container) :
    (r.register c).2.policy = r.policy := by
  unfold register
  split
  · rfl
  · split <;> rfl

@[simp] theorem get?_drop (r : Registry) (name n : String) :
    (r.drop name).2.get? n = if n = name then none else r.get? n := by
  simp [drop,get?]

end Registry

end HostMeter
