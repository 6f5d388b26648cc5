import HostMeter.Container
set_option autoImplicit false

/-! Lifecycle events of containers and the state each of them implies. -/

namespace HostMeter

/-- `existed` and `meterShutdown` come from the meter itself: the first for containers found at its
start, the second for those still tracked at its end. -/
inductive EventType
  | creation
  | deletion
  | oom
  | oomKill
  | existed
  | meterShutdown
  | other (tag : String)
  deriving DecidableEq, Repr

namespace EventType

def tag : EventType → String
  | .creation => "container_creation"
  | .deletion => "container_deletion"
  | .oom => "oom"
  | .oomKill => "oom_kill"
  | .existed => "container_existed"
  | .meterShutdown => "meter_shutdown"
  | .other tag => tag

def known : List EventType := [.creation,.deletion,.oom,.oomKill,.existed,.meterShutdown]

/-- Unknown tags are kept as they are. -/
def ofTag (s : String) : EventType := (known.find? (fun t => t.tag == s)).getD (.other s)

/-- A tag that names a known type is never kept as another one. -/
def Canonical : EventType → Prop
  | .other s => ∀ t ∈ known, t.tag ≠ s
  | _ => True

theorem tag_ofTag (s : String) : (ofTag s).tag = s := by
  unfold ofTag
  cases h : known.find? (fun t => t.tag == s) with
  | none => rfl
  | some t => simpa using List.find?_some h

theorem ofTag_tag {t : EventType} (h : t.Canonical) : ofTag t.tag = t := by
  cases t with
  | other s =>
    have : known.find? (fun t => t.tag == s) = none :=
      List.find?_eq_none.mpr fun t ht => by simpa using h t ht
    show (known.find? (fun t => t.tag == s)).getD (.other s) = .other s
    rw [this]
    rfl
  | _ => decide

theorem ofTag_canonical (s : String) : (ofTag s).Canonical := by
  unfold ofTag
  cases h : known.find? (fun t => t.tag == s) with
  | none => exact fun t ht => by simpa using List.find?_eq_none.mp h t ht
  | some t =>
    have hm := List.mem_of_find?_eq_some h
    simp only [known,List.mem_cons,List.not_mem_nil,or_false] at hm
    rcases hm with rfl | rfl | rfl | rfl | rfl | rfl <;> trivial

def codec : Codec EventType := .mapped .text tag ofTag

end EventType

inductive State
  | running
  | stopped
  | unknown
  deriving DecidableEq, Repr

namespace State

def name : State → String
  | .running => "running"
  | .stopped => "stopped"
  | .unknown => "unknown"

def all : List State := [.running,.stopped,.unknown]

def codec : Codec State := .oneOf (all.map (fun s => (s.name,s))) name

def ofEvent : EventType → State
  | .creation | .existed => .running
  | .deletion | .oom | .oomKill | .meterShutdown => .stopped
  | .other _ => .unknown

end State

abbrev Timestamp := Int64

structure Event where
  type : EventType
  containerName : String
  container : Option Container := none
  timestamp : Timestamp
  deriving DecidableEq, Repr

namespace Event

def codec : Codec Event :=
  .record "ContainerEvent"
    (.more (.required "type" EventType.codec) <| .more (.required "container_name" .text) <|
      .more (.optional "container" Container.codec) <| .more (.required "timestamp" .int64) .done)
    (fun e => (e.type,e.containerName,e.container,e.timestamp,()))
    (fun (t,n,c,s,()) => ⟨t,n,c,s⟩)

def about (type : EventType) (c : Container) (now : Timestamp) : Event :=
  { type, containerName := c.name, container := some c, timestamp := now }

def existed (c : Container) (now : Timestamp) : Event := about .existed c now
def meterShutdown (c : Container) (now : Timestamp) : Event := about .meterShutdown c now

end Event

/-- A transition of a container; its descriptor is absent until somebody looks it up. -/
structure StateChange where
  state : State
  source : Event
  container : Option Container := none
  deriving DecidableEq, Repr

namespace StateChange

def codec : Codec StateChange :=
  .record "StateChange"
    (.more (.required "state" State.codec) <| .more (.required "source_event" Event.codec) <|
      .more (.nullable "container" Container.codec) .done)
    (fun c => (c.state,c.source,c.container,()))
    (fun (s,e,c,()) => ⟨s,e,c⟩)

def ofEvent (e : Event) : StateChange := ⟨State.ofEvent e.type,e,e.container⟩

def withContainer (c : StateChange) (info : Container) : StateChange :=
  { c with container := some info }

/-- The descriptor's name wins over the event's. -/
def containerName (c : StateChange) : String :=
  match c.container with
  | some info => info.name
  | none => c.source.containerName

def isResolved (c : StateChange) : Bool := c.container.isSome

@[simp] theorem withContainer_containerName (c : StateChange) (info : Container) :
    (c.withContainer info).containerName = info.name := rfl

end StateChange

end HostMeter
