import HostMeter.Chain
import HostMeter.Proofs.Tracking.Registry
set_option autoImplicit false

/-! The core of a meter: everything it acts on. The log, the counters and the health are written and
never read, so what a step does to the core depends on the core alone. -/

namespace HostMeter

structure Core (δ ρ : Type) where
  registry : Registry
  collector : Collector
  runtime : δ
  backend : ρ
  clock : Timestamp

variable {δ ρ α σ : Type}

namespace Meter

def core (m : Meter δ ρ) : Core δ ρ := ⟨m.registry,m.collector,m.runtime,m.backend,m.clock⟩

@[simp] theorem core_registry (m : Meter δ ρ) : m.core.registry = m.registry := rfl
@[simp] theorem core_collector (m : Meter δ ρ) : m.core.collector = m.collector := rfl
@[simp] theorem core_runtime (m : Meter δ ρ) : m.core.runtime = m.runtime := rfl
@[simp] theorem core_backend (m : Meter δ ρ) : m.core.backend = m.backend := rfl
@[simp] theorem core_clock (m : Meter δ ρ) : m.core.clock = m.clock := rfl

@[simp] theorem core_note (n : Notice) (m : Meter δ ρ) : (note n m).core = m.core := rfl

@[simp] theorem core_noteAll (ns : List Notice) (m : Meter δ ρ) : (noteAll ns m).core = m.core := by
  induction ns generalizing m with
  | nil => rfl
  | cons n ns ih =>
    have h := ih (note n m)
    simpa [noteAll] using h

@[simp] theorem core_metrics (m : Meter δ ρ) (metrics : Metrics) :
    core { m with metrics } = m.core := rfl

@[simp] theorem core_health (m : Meter δ ρ) (health : Health) :
    core { m with health } = m.core := rfl

@[simp] theorem core_count (f : Metrics → Metrics) (m : Meter δ ρ) : (count f m).core = m.core :=
  core_metrics m _

@[simp] theorem core_countTracked (m : Meter δ ρ) : m.countTracked.core = m.core :=
  core_metrics m _

@[simp] theorem core_heed (m : Meter δ ρ) (e : Collector.Effect) : (m.heed e).core = m.core := by
  unfold heed
  rw [core_noteAll,core_metrics]

@[simp] theorem core_foldl_heed (es : Collector.Effects) (m : Meter δ ρ) :
    (es.foldl heed m).core = m.core := by
  induction es generalizing m with
  | nil => rfl
  | cons e es ih => rw [List.foldl_cons,ih,core_heed]

@[simp] theorem core_withRuntime (m : Meter δ ρ) (runtime : δ) :
    core { m with runtime } = { m.core with runtime } := rfl

@[simp] theorem core_withBackend (m : Meter δ ρ) (backend : ρ) :
    core { m with backend } = { m.core with backend } := rfl

theorem core_sampling (f : Collector → α × Collector × Collector.Effects) (m : Meter δ ρ) :
    (m.sampling f).2.core = { m.core with collector := (f m.collector).2.1 } := by
  unfold sampling
  rw [core_foldl_heed]
  rfl

@[simp] theorem core_setChannels (cs : UsageChannels) (m : Meter δ ρ) :
    (m.setChannels cs).core =
      { m.core with collector := { m.collector with channels := cs } } := rfl

@[simp] theorem core_closeChannel (i : ChannelId) (m : Meter δ ρ) :
    (m.closeChannel i).core =
      { m.core with
        collector := { m.collector with channels := m.collector.channels.close i } } := rfl

theorem core_instant (t : Nat) (m : Meter δ ρ) :
    (m.instant t).core =
      { m.core with collector := (m.collector.instant m.clock t).1 } := core_sampling _ m

theorem core_register (c : Container) (m : Meter δ ρ) :
    (m.register c).2.core = { m.core with registry := (m.registry.register c).2 } := by
  unfold register
  rw [core_noteAll]
  rfl

theorem register_fst (c : Container) (m : Meter δ ρ) :
    (m.register c).1 = (m.registry.register c).1 := rfl

end Meter

end HostMeter
