import HostMeter.Lifecycle
import HostMeter.Notice
import HostMeter.UsageChannel
set_option autoImplicit false

/-! What the meter asks of the container runtime of its host, and how that can go wrong. -/

namespace HostMeter

inductive RuntimeError
  | notFound (name : String)
  | unavailable (reason : String)
  | io (text : String)
  | watch (text : String)
  deriving DecidableEq, Repr

namespace RuntimeError

def message : RuntimeError → String
  | .notFound n => "container not found: "++n
  | .unavailable r => "container driver unavailable: "++r
  | .io t => "I/O error: "++t
  | .watch t => "failed to watch container events: "++t

def kind : RuntimeError → String
  | .notFound _ => "NotFound"
  | .unavailable _ => "Unavailable"
  | .io _ => "Io"
  | .watch _ => "Watch"

def ofKind? (kind text : String) : Option RuntimeError :=
  [.notFound text,.unavailable text,.io text,.watch text].find? (fun e => e.kind == kind)

def chain : RuntimeError → List String
  | .io t => [message (.io t),t]
  | .watch t => [message (.watch t),t]
  | e => [e.message]

end RuntimeError

/-- What a call to the outside comes to. A crash ends whoever made the call. -/
inductive Outcome (ε α : Type)
  | done (a : α)
  | failed (e : ε)
  | crashed
  deriving DecidableEq, Repr

structure Opening where
  container : Container
  places : Nat
  /-- A channel that loses its producer to the new one. -/
  abandoned : Option ChannelId := none
  notices : List Notice := []
  deriving DecidableEq, Repr

abbrev WatchId := Nat

/-- Events taken off a watch, oldest first, and whether its stream has ended behind them. -/
structure EventBatch where
  events : List Event := []
  ended : Bool := false
  deriving DecidableEq, Repr

/-- A container runtime with its state. -/
class ContainerRuntime (δ : Type) where
  /-- The only label keys it ever sets; none when it passes any label on. -/
  labelKeys : δ → Option (List String)
  list : δ → Outcome RuntimeError (List Container) × δ
  describe : String → δ → Outcome RuntimeError Container × δ
  openUsage : String → ChannelId → δ → Outcome RuntimeError Opening × δ
  watch : List EventType → δ → Outcome RuntimeError WatchId × δ
  takeEvents : WatchId → δ → EventBatch × δ
  unwatch : WatchId → δ → δ

/-- A runtime that answers about a container with descriptors of that name, in every state that it
can be in. -/
class FaithfulRuntime (δ : Type) [ContainerRuntime δ] where
  Valid : δ → Prop
  describe_name : ∀ {n : String} {s s' : δ} {c : Container},
    Valid s → ContainerRuntime.describe n s = (.done c,s') → c.name = n
  openUsage_name : ∀ {n : String} {i : ChannelId} {s s' : δ} {o : Opening},
    Valid s → ContainerRuntime.openUsage n i s = (.done o,s') → o.container.name = n
  describe_valid : ∀ {n : String} {s : δ}, Valid s → Valid (ContainerRuntime.describe n s).2
  openUsage_valid : ∀ {n : String} {i : ChannelId} {s : δ},
    Valid s → Valid (ContainerRuntime.openUsage n i s).2

def watchedTypes : List EventType := [.creation,.deletion,.oom,.oomKill]

end HostMeter
