import HostMeter.Proofs.Collector.Landmarks
import HostMeter.Proofs.Collector.Usage
set_option autoImplicit false

/-! The gauge of active collections. Every act that adds an entry or takes one away reads the gauge anew,
and no other touches it. -/

namespace HostMeter

namespace Metering

variable {b : Metering} {r : Collector × Collector.Effects}

/-- The gauge shows how many containers are collected. -/
def Gauged (b : Metering) : Prop := b.metrics.collectionsActive = Metrics.gauge b.collector.active

/-- Effects behind which the gauge shows such a count, if it does before them. -/
def Reads (before after : Nat) (es : Collector.Effects) : Prop :=
  ∀ m : Metrics,m.collectionsActive = Metrics.gauge before →
    (es.foldl (fun m e => e.count m) m).collectionsActive = Metrics.gauge after

theorem reads_nil (n : Nat) : Reads n n [] := fun _ h => h

theorem reads_quiet {e : Collector.Effect} (n : Nat)
    (he : ∀ m : Metrics,(e.count m).collectionsActive = m.collectionsActive) : Reads n n [e] :=
  fun m h => (he m).trans h

theorem reads_set {e : Collector.Effect} (before after : Nat)
    (he : ∀ m : Metrics,e.count m = m.setCollectionsActive after) : Reads before after [e] := by
  intro m _
  rw [List.foldl_cons,he,List.foldl_nil,Metrics.setCollectionsActive]

theorem reads_removed (before after : Nat) : Reads before after [.removed after] :=
  reads_set _ _ fun _ => rfl

theorem Gauged.adopt (h : b.Gauged) (hr : Reads b.collector.active r.1.active r.2) :
    (b.adopt r).Gauged := hr b.metrics h

variable {c : Collector}

theorem reads_emit (clock : Timestamp) (container : Container) (u : Usage) (c : Collector) :
    Reads c.active (c.emit clock container u).1.active (c.emit clock container u).2 := by
  unfold Collector.emit
  split <;> exact reads_quiet _ fun _ => rfl

theorem reads_tick (clock : Timestamp) (g : Nat) (c : Collector) :
    Reads c.active (c.tick clock g).1.active (c.tick clock g).2 := by
  cases c.ticked g with
  | idle h =>
    rw [Collector.tick_idle h]
    exact reads_nil _
  | took l ch u us hl hp hc hq =>
    rw [Collector.tick_took hl hp hc hq]
    exact reads_emit clock ch.container u (c.drawn g l.channel)
  | waited l ch hl hp hc hq hf =>
    rw [Collector.tick_waited hl hp hc hq hf]
    exact reads_nil _
  | left l hl hp hq hf =>
    rw [Collector.tick_left hl hp hq hf]
    exact reads_quiet _ fun _ => rfl

theorem reads_release (g : Nat) (c : Collector) :
    Reads c.active (c.release g).1.active (c.release g).2 := by
  rcases c.release_cases g with hd | ⟨l,-,-,⟨-,hd⟩ | ⟨-,hd⟩⟩ <;> rw [hd]
  · exact reads_nil _
  · exact reads_removed _ _
  · exact reads_nil _

theorem reads_cancel (name : String) (c : Collector) :
    Reads c.active (c.cancel name).2.1.active (c.cancel name).2.2 := by
  cases hn : c.entries.get? name with
  | none =>
    rw [Collector.cancel_none hn]
    exact reads_nil _
  | some g =>
    rw [Collector.cancel_some hn]
    exact reads_removed _ _

theorem reads_collect (i : ChannelId) (c : Collector) :
    Reads c.active (c.collect i).2.1.active (c.collect i).2.2 := by
  cases hc : c.isCollecting (c.channels.name i) with
  | true =>
    rw [Collector.collect_refused hc]
    exact reads_quiet _ fun _ => rfl
  | false =>
    rw [Collector.collect_started hc]
    exact reads_set _ _ fun _ => rfl

theorem reads_act (a : Act) (c : Collector) : Reads c.active (a.act c).1.active (a.act c).2 := by
  cases a with
  | collect i =>
    show Reads c.active (if i < c.channels.next then _ else (c,[])).1.active
      (if i < c.channels.next then _ else (c,[])).2
    split
    · exact reads_collect i c
    · exact reads_nil _
  | cancel name => exact reads_cancel name c
  | cancelAll => exact reads_removed _ _
  | finish g =>
    show Reads c.active (c.finish g).2.active []
    rcases c.finish_cases g with hd | ⟨l,-,-,hd⟩ <;> rw [hd] <;> exact reads_nil _
  | tick clock g => exact reads_tick clock g c
  | release g => exact reads_release g c
  | offer i u =>
    show Reads c.active (if c.channels.IsFed i then _ else c).active []
    split <;> exact reads_nil _
  | _ => exact reads_nil _

theorem reads_deed (x : Deed) (c : Collector) : Reads c.active (x.take c).1.active (x.take c).2 := by
  cases x with
  | act a => exact reads_act a c
  | withdraw => exact reads_removed _ _
  | tell g => exact reads_nil _

theorem Gauged.run (h : b.Gauged) (acts : List Act) : (run acts b).Gauged := by
  induction acts generalizing b with
  | nil => exact h
  | cons a acts ih => exact ih (h.adopt (reads_act a b.collector))

theorem Gauged.stop (h : b.Gauged) (name : String) : (b.adopt (b.collector.stop name).2).Gauged := by
  obtain ⟨acts,hacts⟩ := exists_run_stop name b
  rw [← hacts]
  exact h.run acts

theorem Gauged.stopAll (h : b.Gauged) : (b.adopt b.collector.stopAll.2).Gauged := by
  rw [← run_stopAll]
  exact h.run _

theorem Gauged.instant (h : b.Gauged) (clock : Timestamp) (t : Nat) :
    (b.adopt (b.collector.instant clock t)).Gauged := by
  rw [← run_instant]
  exact h.run _

end Metering

end HostMeter
