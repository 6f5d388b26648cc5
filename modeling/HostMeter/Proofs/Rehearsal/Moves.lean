import HostMeter.Proofs.Rehearsal.Coherent
set_option autoImplicit false

/-! All that can be done with a rehearsed meter: messages are sent, or taken past one filter at a time by
workers of any number, containers come and go, loops are started, look and are stopped, and channels are filled,
emptied and let go. Whatever is done in whatever order, the meter stays coherent. -/

namespace HostMeter

theorem Fleet.feeds_ofContainers (cs : List Container) : (ofContainers cs).feeds = .empty := by
  have h : ∀ f : Fleet,(cs.foldl (fun f c => f.add c) f).feeds = f.feeds := by
    induction cs with
    | nil => exact fun f => rfl
    | cons c cs ih => exact fun f => ih (f.add c)
  exact h {}

namespace Rehearsal

inductive Move
  | send (s : ChainSettings) (msg : Message)
  | pass (s : ChainSettings) (place : Nat) (msg : Message)
  | enlist (meterId : String) (e : Event)
  | register (c : Container)
  | drop (name : String)
  | supply (c : Container) (places : Nat)
  | collect (i : ChannelId)
  | stop (name : String)
  | stopAll
  | instant (t : Nat)
  /-- Anything may have become of what is queued in a channel and of its two ends. -/
  | tend (i : ChannelId) (f : Channel Usage → Channel Usage)
  | add (c : Container)
  | remove (name : String)
  | closeUsage (name : String)
  /-- Anything may have become of the watches, the faults, the receiver, the stream and the clock. -/
  | turn (watchers : List Watcher) (labelKeys : Option (List String)) (deaf : List WatchId) (faults : Faults)
    (backend : FailingBackend Inbox) (stream : Channel Sample) (clock : Timestamp)

namespace Move

def take : Move → Rehearsal → Rehearsal
  | .send s msg,m => (m.send s msg).2
  | .pass s place msg,m =>
    match (Chain.standard s)[place]? with
    | some f => (f.pass msg m).2
    | none => m
  | .enlist meterId e,m => (Agent.enlist meterId e m).2
  | .register c,m => (m.register c).2
  | .drop name,m => (m.drop name).2
  | .supply c places,m => m.setChannels (m.channels.add ⟨c,.ofPlaces places⟩)
  | .collect i,m => if i < m.channels.next then (m.collect i).2 else m
  | .stop name,m => (m.stopCollecting name).2
  | .stopAll,m => m.stopAll.2
  | .instant t,m => m.instant t
  | .tend i f,m => m.setChannels (m.channels.modify i f)
  | .add c,m => m.add c
  | .remove name,m => m.remove name
  | .closeUsage name,m => m.closeUsage name
  | .turn watchers labelKeys deaf faults backend stream clock,m =>
    { m with
      runtime := { m.runtime with inner := { m.runtime.inner with watchers, labelKeys }, deaf, faults }
      backend
      collector := { m.collector with stream }
      clock }

end Move

def run (moves : List Move) (m : Rehearsal) : Rehearsal := moves.foldl (fun m x => x.take m) m

variable {m : Rehearsal}

theorem coherent_sampling {α : Type} {f : Collector → α × Collector × Collector.Effects}
    (h : m.core.Coherent) (hs : (f m.collector).2.1.Sound) (hl : (f m.collector).2.1.Labelled)
    (hc : m.collector.channels.Within (f m.collector).2.1.channels) : (m.sampling f).2.core.Coherent := by
  rw [Meter.core_sampling]
  exact h.collector hs hl hc

theorem coherent_setChannels {cs : UsageChannels} (h : m.core.Coherent) (hc : m.channels.Within cs) :
    (m.setChannels cs).core.Coherent := by
  have hl : Collector.Labelled { m.collector with channels := cs } :=
    h.labelled.retained (.of_subset (List.Subset.refl _)) hc
  exact h.collector (h.sound.congr rfl rfl rfl) hl hc

theorem coherent_onFleet {f : Fleet} (h : m.core.Coherent) (hk : f.Keyed)
    (hf : ∀ n i,f.feeds.get? n = some i → m.fleet.feeds.get? n = some i) :
    Core.Coherent { m.core with runtime := { m.runtime with inner := f } } :=
  ⟨⟨h.keyed,h.sound⟩,hk,h.labelled,fun n i hi => h.fed n i (hf n i hi)⟩

theorem coherent_cutChannel (h : m.core.Coherent) (i : Option ChannelId) :
    (m.cutChannel i).core.Coherent := by
  cases i with
  | none => exact h
  | some i => exact coherent_setChannels h (UsageChannels.within_modify i _)

theorem coherent_closeUsage (h : m.core.Coherent) (name : String) :
    (m.closeUsage name).core.Coherent := by
  refine coherent_cutChannel (m := { m with runtime := { m.runtime with
    inner := (m.fleet.closeUsage name).2 } }) (coherent_onFleet h h.known ?_) _
  intro n i hi
  have hi : (m.fleet.feeds.erase name).get? n = some i := hi
  rw [Table.get?_erase] at hi
  split at hi
  · cases hi
  · exact hi

theorem coherent_remove (h : m.core.Coherent) (name : String) : (m.remove name).core.Coherent := by
  have hk := (show m.fleet.Keyed from h.known).remove name
  have hc := coherent_onFleet h hk (f := { m.fleet with containers := m.fleet.containers.erase name })
    (fun _ _ hi => hi)
  exact coherent_closeUsage (m := { m with runtime := { m.runtime with
    inner := { m.fleet with containers := m.fleet.containers.erase name } } }) hc name

namespace Move

theorem take_coherent (h : m.core.Coherent) (x : Move) : (x.take m).core.Coherent := by
  have hs : m.collector.Sound := h.sound
  have hl : m.collector.Labelled := h.labelled
  cases x with
  | send s msg =>
    show (m.send s msg).2.core.Coherent
    rw [Meter.core_send]
    exact h.send s.meterId msg
  | pass s place msg =>
    cases hf : (Chain.standard s : List (Filter Rehearsal))[place]? with
    | some f =>
      have hp : (f.pass msg m).2.core = (m.core.pass s.meterId place msg).2 :=
        congrArg Prod.snd (Chain.passed_standard hf msg m)
      simp only [take,hf]
      rw [hp]
      exact h.pass s.meterId place msg
    | none =>
      simp only [take,hf]
      exact h
  | enlist meterId e =>
    show (Agent.enlist meterId e m).2.core.Coherent
    rw [Agent.core_enlist]
    exact h.enlist e
  | register c =>
    show (m.register c).2.core.Coherent
    rw [Meter.core_register]
    exact h.registry (h.keyed.register c)
  | drop name => exact h.registry (h.keyed.drop name)
  | supply c places => exact coherent_setChannels h (UsageChannels.within_add _)
  | collect i =>
    show (if i < m.channels.next then (m.collect i).2 else m : Rehearsal).core.Coherent
    split
    · rename_i hi
      exact coherent_sampling h (hs.collect i) (hl.collect (UsageChannels.carries_of_lt hi))
        (Collector.within_collect i m.collector)
    · exact h
  | stop name =>
    have hc : m.collector.channels.Within (m.collector.stop name).2.1.channels := by
      rw [hs.stop_channels]
      exact .refl _
    exact coherent_sampling h (hs.stop name).1 (hl.retained (hs.retains_stop name) hc) hc
  | stopAll =>
    refine coherent_sampling h ?_ ?_ ?_ <;> rw [hs.stopAll_eq]
    · exact Collector.sound_of_empty rfl rfl
    · exact fun l hm => absurd hm List.not_mem_nil
    · exact .refl _
  | instant t =>
    obtain ⟨hli,hc⟩ := hl.instant hs m.clock t
    exact coherent_sampling h (hs.instant m.clock t) hli hc
  | tend i f => exact coherent_setChannels h (UsageChannels.within_modify i f)
  | add c => exact coherent_onFleet h (h.known.add c) fun _ _ hi => hi
  | remove name => exact coherent_remove h name
  | closeUsage name => exact coherent_closeUsage h name
  | turn watchers labelKeys deaf faults backend stream clock =>
    exact ⟨⟨h.keyed,hs.congr rfl rfl rfl⟩,h.known,hl,h.fed⟩

end Move

theorem run_coherent (h : m.core.Coherent) (moves : List Move) : (run moves m).core.Coherent := by
  induction moves generalizing m with
  | nil => exact h
  | cons x moves ih => exact ih (x.take_coherent h)

theorem ofParts_coherent (p : Policy) (containers : List Container) (rateMs places : Nat)
    (clock : Timestamp) : (ofParts p containers rateMs places clock).core.Coherent where
  keyed := Registry.keyed_of_empty rfl
  sound := Collector.sound_of_empty rfl rfl
  known := Fleet.keyed_ofContainers containers
  labelled := fun l hl => absurd hl List.not_mem_nil
  fed := by
    intro n i hi
    have hi : (Fleet.ofContainers containers).feeds.get? n = some i := hi
    rw [Fleet.feeds_ofContainers] at hi
    cases hi

end Rehearsal

end HostMeter
