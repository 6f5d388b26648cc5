import HostMeter.Fleet
import HostMeter.Inbox
import HostMeter.Proofs.Agent.Admission
import HostMeter.Proofs.Chain.Effects
import HostMeter.Proofs.Chain.Send
import HostMeter.Proofs.Collector.Fed
import HostMeter.Proofs.Watched
set_option autoImplicit false

/-! Runs of a watched meter: messages are sent through the chain one after the other and containers
admitted, while all around the poll loops look, channels are fed and disconnected, samples are taken
off the stream, and runtime, backend and wall clock change as they like. -/

namespace HostMeter

/-- What goes on around the chain. -/
inductive Incident (δ ρ : Type)
  | instant (t : Nat)
  | feed (i : ChannelId) (u : Usage)
  | disconnect (i : ChannelId)
  | read
  /-- Anything may have become of the runtime, the backend and the clock. -/
  | turn (runtime : δ) (backend : ρ) (clock : Timestamp)

inductive Act (δ ρ : Type)
  | send (msg : Message)
  | enlist (e : Event)
  | incident (o : Incident δ ρ)

variable {δ ρ : Type}

namespace Incident

def take : Incident δ ρ → Watched δ ρ → Watched δ ρ
  | .instant t,m => m.instant t
  | .feed i u,m => m.setChannels (m.channels.offer i u).2
  | .disconnect i,m => m.cutChannel (some i)
  | .read,m => m.drainStream.2
  | .turn runtime backend clock,m =>
    { m with
      runtime := { m.runtime with inner := runtime }
      backend := { m.backend with inner := backend }
      clock }

def Valid [ContainerRuntime δ] [FaithfulRuntime δ] : Incident δ ρ → Prop
  | .turn runtime _ _ => FaithfulRuntime.Valid runtime
  | _ => True

variable {m : Watched δ ρ}

theorem take_registry (o : Incident δ ρ) (m : Watched δ ρ) :
    (o.take m).registry = m.registry := by
  cases o with
  | instant t => exact congrArg Core.registry (Meter.core_instant t m)
  | feed => rfl
  | disconnect => rfl
  | read => rfl
  | turn => rfl

theorem take_handed (o : Incident δ ρ) (m : Watched δ ρ) :
    (o.take m).backend.handed = m.backend.handed := by
  cases o with
  | instant t =>
    exact congrArg (fun k : Core (Tallied δ) (Tapped ρ) => k.backend.handed) (Meter.core_instant t m)
  | feed => rfl
  | disconnect => rfl
  | read => rfl
  | turn => rfl

theorem instant_collector (t : Nat) (m : Watched δ ρ) :
    (take (.instant t) m).collector = (m.collector.instant m.clock t).1 :=
  congrArg Core.collector (Meter.core_instant t m)

theorem take_sound (h : m.collector.Sound) (o : Incident δ ρ) : (o.take m).collector.Sound := by
  cases o with
  | instant t =>
    rw [instant_collector]
    exact h.instant m.clock t
  | feed => exact h.congr rfl rfl rfl
  | disconnect => exact h.congr rfl rfl rfl
  | read => exact h.congr rfl rfl rfl
  | turn => exact h

theorem isCollecting_take (h : m.collector.Sound) (o : Incident δ ρ) (n : String)
    (hn : (o.take m).collector.isCollecting n = true) : m.collector.isCollecting n = true := by
  cases o with
  | instant t =>
    rw [instant_collector] at hn
    exact h.isCollecting_instant t n hn
  | feed => exact hn
  | disconnect => exact hn
  | read => exact hn
  | turn => exact hn

theorem take_entries (h : m.collector.Sound) (hf : m.collector.Fed) (o : Incident δ ρ) :
    (o.take m).collector.entries = m.collector.entries := by
  cases o with
  | instant t =>
    rw [instant_collector]
    exact hf.entries_instant h m.clock t
  | feed => rfl
  | disconnect => rfl
  | read => rfl
  | turn => rfl

theorem take_valid [ContainerRuntime δ] [FaithfulRuntime δ]
    (h : FaithfulRuntime.Valid m.runtime) {o : Incident δ ρ} (ho : o.Valid) :
    FaithfulRuntime.Valid (o.take m).runtime := by
  cases o with
  | instant t =>
    have hk : (take (.instant t) m).runtime = m.runtime :=
      congrArg Core.runtime (Meter.core_instant t m)
    rw [hk]
    exact h
  | feed => exact h
  | disconnect => exact h
  | read => exact h
  | turn => exact ho

end Incident

/-- Containers are kept under their own names, and the collector is sound. -/
structure Core.Orderly (k : Core δ ρ) : Prop where
  keyed : k.registry.Keyed
  sound : k.collector.Sound

theorem Incident.take_orderly {m : Watched δ ρ} (h : m.core.Orderly) (o : Incident δ ρ) :
    (o.take m).core.Orderly where
  keyed := by
    rw [Meter.core_registry,o.take_registry]
    exact h.keyed
  sound := o.take_sound h.sound

/-- Nothing is registered, nothing is sampled, and nothing has been handed over. -/
structure Watched.Blank (m : Watched δ ρ) : Prop where
  registry : m.registry.containers = .empty
  entries : m.collector.entries = .empty
  loops : m.collector.loops = []
  handed : m.backend.handed = []

theorem Watched.Blank.orderly {m : Watched δ ρ} (h : m.Blank) : m.core.Orderly where
  keyed := Registry.keyed_of_empty h.registry
  sound := Collector.sound_of_empty h.entries h.loops

variable [ContainerRuntime δ]

theorem Core.Orderly.enlist {k : Core δ ρ} (h : k.Orderly) (e : Event) : (k.enlist e).2.Orderly where
  keyed := by
    rw [enlist_registry]
    split
    · exact h.keyed.register _
    · exact h.keyed
  sound := by
    rw [(enlist_keeps e k).1]
    exact h.sound

theorem Agent.core_enlist (meterId : String) (e : Event) (m : Meter δ ρ) :
    (enlist meterId e m).2.core = (m.core.enlist e).2 :=
  congrArg Prod.snd (outcome_enlist meterId e m)

variable [Backend ρ]

theorem Core.Orderly.send {k : Core δ ρ} (h : k.Orderly) (meterId : String) (msg : Message) :
    (k.send meterId msg).2.Orderly where
  keyed := by
    rw [send_registry]
    exact h.keyed.heed msg
  sound := send_sound h.sound msg

theorem Meter.core_send (s : ChainSettings) (msg : Message) (m : Meter δ ρ) :
    (m.send s msg).2.core = (m.core.send s.meterId msg).2 :=
  congrArg Prod.snd (Meter.outcome_send s msg m)

namespace Act

def take (s : ChainSettings) : Act δ ρ → Watched δ ρ → Watched δ ρ
  | .send msg,m => (m.send s msg).2
  | .enlist e,m => (Agent.enlist s.meterId e m).2
  | .incident o,m => o.take m

theorem core_send (s : ChainSettings) (msg : Message) (m : Watched δ ρ) :
    (take s (.send msg) m).core = (m.core.send s.meterId msg).2 := Meter.core_send s msg m

theorem core_enlist (s : ChainSettings) (e : Event) (m : Watched δ ρ) :
    (take s (.enlist e) m).core = (m.core.enlist e).2 := Agent.core_enlist s.meterId e m

theorem take_orderly {m : Watched δ ρ} (h : m.core.Orderly) (s : ChainSettings) (a : Act δ ρ) :
    (a.take s m).core.Orderly := by
  cases a with
  | send msg =>
    rw [core_send]
    exact h.send s.meterId msg
  | enlist e =>
    rw [core_enlist]
    exact h.enlist e
  | incident o => exact o.take_orderly h

end Act

namespace Watched

def run (s : ChainSettings) (acts : List (Act δ ρ)) (m : Watched δ ρ) : Watched δ ρ :=
  acts.foldl (fun m a => a.take s m) m

/-- Something is true of every act of a run and the meter it is taken on. -/
def Along (s : ChainSettings) (Q : Act δ ρ → Watched δ ρ → Prop) :
    List (Act δ ρ) → Watched δ ρ → Prop
  | [],_ => True
  | a :: acts,m => Q a m ∧ Along s Q acts (a.take s m)

variable {s : ChainSettings} {Q : Act δ ρ → Watched δ ρ → Prop}

theorem run_cons (s : ChainSettings) (a : Act δ ρ) (acts : List (Act δ ρ)) (m : Watched δ ρ) :
    run s (a :: acts) m = run s acts (a.take s m) := rfl

theorem run_induction {P : Watched δ ρ → Prop} (step : ∀ a m,Q a m → P m → P (a.take s m))
    {acts : List (Act δ ρ)} {m : Watched δ ρ} (hq : Along s Q acts m) (h : P m) :
    P (run s acts m) := by
  induction acts generalizing m with
  | nil => exact h
  | cons a acts ih => exact ih hq.2 (step a m hq.1 h)

def web : Container := Container.withLabel { name := "web" } "track" "yes"

def chain : ChainSettings := { meterId := "meter", serviceKey := "service" }

def small : Watched Fleet Inbox where
  registry := { policy := .ofParts "track" "" }
  collector := .ofSettings 100 64
  runtime := { inner := .ofContainers [web] }
  backend := { inner := {} }

theorem small_blank : small.Blank := ⟨rfl,rfl,rfl,rfl⟩

def webCreated : Event := { type := .creation, containerName := "web", timestamp := 3 }
def webDeleted : Event := { type := .deletion, containerName := "web", timestamp := 7 }

end Watched

abbrev WatchedAgent (δ ρ : Type) := Agent (Tallied δ) (Tapped ρ)

def WatchedAgent.small : WatchedAgent Fleet Inbox where
  chain := Watched.chain
  meter := Watched.small
  dispatcher := .ofSettings {}

end HostMeter
