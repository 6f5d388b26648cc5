import HostMeter.Proofs.Chain.Stirs
import HostMeter.Proofs.Collector.Gauge
set_option autoImplicit false

/-! The gauges of a meter against what they are read off, past every filter of the standard chain. -/

namespace HostMeter

namespace Metrics

/-! The gauge as a number stays closed here: unfolded, it is a residue of words. -/

theorem gauge_of_lt {count : Nat} (h : count < limit63) : gauge count = count := by
  unfold limit63 at h
  unfold gauge limit64
  rw [Int.bmod_eq_of_le] <;> omega

theorem containersTracked_withGauges (tracked active : Int) (k : Metrics) :
    ({ k with containersTracked := tracked, collectionsActive := active } : Metrics).containersTracked =
      tracked := rfl

theorem collectionsActive_withGauges (tracked active : Int) (k : Metrics) :
    ({ k with containersTracked := tracked, collectionsActive := active } : Metrics).collectionsActive =
      active := rfl

theorem containersTracked_setContainersTracked (count : Nat) (k : Metrics) :
    (k.setContainersTracked count).containersTracked = gauge count :=
  containersTracked_withGauges (gauge count) k.collectionsActive k

theorem collectionsActive_setContainersTracked (count : Nat) (k : Metrics) :
    (k.setContainersTracked count).collectionsActive = k.collectionsActive :=
  collectionsActive_withGauges (gauge count) k.collectionsActive k

theorem containersTracked_setCollectionsActive (count : Nat) (k : Metrics) :
    (k.setCollectionsActive count).containersTracked = k.containersTracked :=
  containersTracked_withGauges k.containersTracked (gauge count) k

end Metrics

namespace Meter

variable {δ ρ α : Type} {m m' : Meter δ ρ}

/-- The gauges show what is registered and what is collected. -/
structure Gauged (m : Meter δ ρ) : Prop where
  tracked : m.metrics.containersTracked = Metrics.gauge m.registry.size
  active : m.metering.Gauged

theorem countTracked_registry (m : Meter δ ρ) : m.countTracked.registry = m.registry := by
  rw [countTracked]

theorem countTracked_collector (m : Meter δ ρ) : m.countTracked.collector = m.collector := by
  rw [countTracked]

theorem countTracked_metrics (m : Meter δ ρ) :
    m.countTracked.metrics = m.metrics.setContainersTracked m.registry.size := by
  rw [countTracked]

theorem tracked_foldl_count (es : Collector.Effects) (k : Metrics) :
    (es.foldl (fun k e => e.count k) k).containersTracked = k.containersTracked := by
  induction es generalizing k with
  | nil => rfl
  | cons e es ih =>
    rw [List.foldl_cons,ih]
    cases e with
    | started n r active => exact Metrics.containersTracked_setCollectionsActive active k
    | removed active => exact Metrics.containersTracked_setCollectionsActive active k
    | _ => rfl

namespace Gauged

theorem congr (h : m.Gauged) (hr : m'.registry = m.registry)
    (he : m'.collector.entries = m.collector.entries)
    (ht : m'.metrics.containersTracked = m.metrics.containersTracked)
    (ha : m'.metrics.collectionsActive = m.metrics.collectionsActive) : m'.Gauged where
  tracked := by
    rw [ht,hr]
    exact h.tracked
  active := by
    show m'.metrics.collectionsActive = Metrics.gauge m'.collector.entries.size
    rw [ha,he]
    exact h.active

theorem note (h : m.Gauged) (n : Notice) : (note n m).Gauged := h.congr rfl rfl rfl rfl

theorem noteAll (h : m.Gauged) (ns : List Notice) : (m.noteAll ns).Gauged := by
  induction ns generalizing m with
  | nil => exact h
  | cons n ns ih => exact ih (h.note n)

theorem sampling (h : m.Gauged) (f : Collector → α × Collector × Collector.Effects)
    (hf : (m.metering.adopt (f m.collector).2).Gauged) : (m.sampling f).2.Gauged where
  tracked := by
    have hm : (m.sampling f).2.metrics = (m.metering.adopt (f m.collector).2).metrics :=
      congrArg Metering.metrics (metering_sampling f m)
    have hr : (m.sampling f).2.registry = m.registry := congrArg Core.registry (core_sampling f m)
    rw [hm,hr,Metering.adopt,tracked_foldl_count]
    exact h.tracked
  active := by
    rw [metering_sampling]
    exact hf

theorem counted (h : m.metering.Gauged) : m.countTracked.Gauged where
  tracked := by
    rw [countTracked_metrics,countTracked_registry]
    exact Metrics.containersTracked_setContainersTracked _ _
  active := by
    rw [metering,countTracked_metrics,countTracked_collector]
    exact (Metrics.collectionsActive_setContainersTracked _ _).trans h

theorem withRegistry (h : m.Gauged) (registry : Registry) (ns : List Notice) :
    (Meter.noteAll ns { m with registry }).countTracked.Gauged := by
  apply counted
  rw [metering_noteAll]
  exact h.active

theorem stir (h : m.Gauged) (hs : Stir m m') : m'.Gauged := by
  cases hs with
  | note n => exact h.note n
  | enter => exact h.withRegistry _ _
  | leave name => exact h.withRegistry _ [Registry.dropNotice (m.registry.isRegistered name) name]
  | collect i => exact h.sampling _ (h.active.adopt (Metering.reads_collect i m.collector))
  | stop name => exact h.sampling _ (h.active.stop name)
  | stopAll => exact h.sampling _ h.active.stopAll
  | instant t => exact h.sampling _ (h.active.instant m.clock t)
  | channels cs => exact h.congr rfl rfl rfl rfl
  | runtime runtime => exact h.congr rfl rfl rfl rfl
  | unhandled => exact h.congr rfl rfl rfl rfl

theorem stirs (h : m.Gauged) (hs : Stirs m m') : m'.Gauged := hs.keeps (fun _ _ hst hm => hm.stir hst) h

theorem deliver [Backend ρ] (h : m.Gauged) (r : Report) : (m.deliver r).2.Gauged := by
  rcases hd : Backend.deliver r m.backend with ⟨o,backend⟩
  have hb : Gauged { m with backend } := h.congr rfl rfl rfl rfl
  cases o with
  | done d =>
    simp only [Meter.deliver,hd]
    exact hb.noteAll d.notices
  | failed e =>
    simp only [Meter.deliver,hd]
    exact hb
  | crashed =>
    simp only [Meter.deliver,hd]
    exact hb

theorem report [Backend ρ] (h : m.Gauged) (s : ChainSettings) (r : Report) :
    (Chain.report s r m).2.Gauged := by
  have hd := h.deliver r
  rcases hm : m.deliver r with ⟨o,m'⟩
  rw [hm] at hd
  cases o with
  | done receipt =>
    simp only [Chain.report,hm,Chain.delivered]
    split <;> exact hd.congr rfl rfl rfl rfl
  | failed e =>
    simp only [Chain.report,hm,Chain.refused]
    split <;> exact hd.congr rfl rfl rfl rfl
  | crashed =>
    simp only [Chain.report,hm]
    exact hd

variable [ContainerRuntime δ] [Backend ρ]

theorem pass (h : m.Gauged) {s : ChainSettings} {f : Filter (Meter δ ρ)} (hf : f ∈ Chain.standard s)
    (msg : Message) : (f.pass msg m).2.Gauged := by
  rcases Chain.standard_stirring s hf with rfl | ⟨-,hst⟩
  · refine Filter.pass_keeps (fun _ _ hg => hg.note _) ?_
    cases msg with
    | report r => exact h.report s r
    | _ => exact h
  · exact h.stirs (hst.pass msg m)

theorem send (h : m.Gauged) (s : ChainSettings) (msg : Message) : (m.send s msg).2.Gauged :=
  Pipeline.runIn_keeps (fun _ hf msg _ hm => hm.pass hf msg) msg h

end Gauged

end Meter

end HostMeter
