import HostMeter.Fleet
import HostMeter.Inbox
import HostMeter.Proofs.Agent.Occurrences
import HostMeter.Proofs.Chain.Gauges
import HostMeter.Proofs.Workers.Flight
set_option autoImplicit false

/-! The gauges along the runs of an agent. -/

namespace HostMeter

variable {δ ρ : Type} [ContainerRuntime δ]

namespace Meter.Gauged

variable {m : Meter δ ρ}

omit [ContainerRuntime δ] in
theorem perform (h : m.Gauged) (x : Metering.Deed) : (m.perform x).Gauged :=
  h.sampling _ (h.active.adopt (Metering.reads_deed x m.collector))

theorem enlist (h : m.Gauged) (meterId : String) (e : Event) : (Agent.enlist meterId e m).2.Gauged := by
  rcases hm : m.describe e.containerName with ⟨o,m'⟩
  have hd : m'.Gauged := by
    have hd := h.stirs (stirs_describe e.containerName m)
    rwa [hm] at hd
  cases o with
  | failed err =>
    simp only [Agent.enlist,hm]
    cases err <;> exact hd.note _
  | crashed =>
    simp only [Agent.enlist,hm]
    exact hd
  | done info =>
    cases ht : m'.registry.isTrackable info with
    | false =>
      simp only [Agent.enlist,hm,ht]
      exact hd.note _
    | true =>
      rcases hr : m'.register info with ⟨a,l⟩
      simp only [Agent.enlist,hm,ht,hr,Bool.not_true,Bool.false_eq_true,if_false]
      cases a with
      | added => exact (hd.stirs (stirs_added hr)).note _
      | present => exact hd.stirs (stirs_refused hr (by simp))
      | notTrackable => exact (hd.stirs (stirs_refused hr (by simp))).note _

end Meter.Gauged

namespace Agent

variable [Backend ρ]

theorem gauged_lasting : Lasting (Meter.Gauged (δ := δ) (ρ := ρ)) fun _ => True where
  congr h := h.congr
  perform x _ h := h.perform x
  instant t m h := h.stir (.instant t m)
  stopAll {m} h := h.stir (.stopAll m)
  enlist meterId e _ h := h.enlist meterId e
  send s msg _ _ h := h.send s msg
  listed _ _ _ := trivial
  change _ := trivial
  sample _ := trivial

def midway (s : ChainSettings) (msg : Message) (passed : Nat) (m : Meter δ ρ) : Meter δ ρ :=
  (Team.alone (Flight.step (Chain.standard s)) passed { message := msg }
    (count (·.incMessages msg.kind) m)).2

theorem gauged_alone {s : ChainSettings} {m : Meter δ ρ} (h : m.Gauged) (g : Flight) (passed : Nat) :
    (Team.alone (Flight.step (Chain.standard s)) passed g m).2.Gauged := by
  induction passed generalizing g m with
  | zero => exact h
  | succ k ih =>
    refine ih ?_ _
    by_cases hg : g.fate = none
    · cases hf : (Chain.standard s : List (Filter (Meter δ ρ)))[g.passed]? with
      | none =>
        rw [Flight.step_through hg hf]
        exact h
      | some f =>
        rw [Flight.step_pass hg hf]
        exact h.pass (List.mem_of_getElem? hf) g.message
    · rw [Flight.step_landed hg]
      exact h

/-- Whatever an agent goes through from its beginning on, and whatever fails on the way: the gauges show
how many containers are registered and how many are collected. They do so behind every filter as well that
the next message passes. A gauge is a signed word, which holds all counts below its limit as they are. -/
theorem gauges_track {a : Agent δ ρ} (hr : a.meter.registry.containers = .empty)
    (he : a.meter.collector.entries = .empty) (ht : a.meter.metrics.containersTracked = 0)
    (ha : a.meter.metrics.collectionsActive = 0) (xs : List (Occurrence δ ρ)) :
    let m := (a.run xs).meter
    m.metrics.containersTracked = Metrics.gauge m.registry.size ∧
      m.metrics.collectionsActive = Metrics.gauge m.collector.active ∧
      (m.registry.size < limit63 → m.metrics.containersTracked = m.registry.size) ∧
      (m.collector.active < limit63 → m.metrics.collectionsActive = m.collector.active) ∧
      ∀ msg passed,(midway (a.run xs).chain msg passed m).Gauged := by
  intro m
  have hzero : 0 = Metrics.gauge (Table.size (.empty : Table Nat)) :=
    (Metrics.gauge_of_lt (show 0 < limit63 by decide)).symm
  have h : a.meter.Gauged := by
    refine ⟨?_,?_⟩
    · rw [ht,Registry.size,hr]
      exact hzero
    · show a.meter.metrics.collectionsActive = Metrics.gauge a.meter.collector.entries.size
      rw [ha,he]
      exact hzero
  have hm : m.Gauged := (gauged_lasting.run ⟨h,fun _ _ => trivial⟩ fun _ _ => trivial).meter
  refine ⟨hm.tracked,hm.active,fun hlt => ?_,fun hlt => ?_,fun msg passed => ?_⟩
  · rw [hm.tracked,Metrics.gauge_of_lt hlt]
  · exact hm.active.trans (Metrics.gauge_of_lt hlt)
  · have hc : (count (·.incMessages msg.kind) m).Gauged := hm.congr rfl rfl rfl rfl
    exact gauged_alone hc { message := msg } passed

def fresh : Agent Fleet Inbox :=
  .ofSettings { meterId := "meter", policy := ⟨"track",""⟩, rateMs := 100 }
    (.ofContainers [Watched.web]) {} {} 0

def bereaved : List (Occurrence Fleet Inbox) :=
  [.start {},.settle,.deed (.act (.cut 0)),.instant 100]

theorem gauges_track_bereaved :
    (fresh.run bereaved).meter.metrics.containersTracked = 1 ∧
      (fresh.run bereaved).meter.metrics.collectionsActive = 0 ∧
      (fresh.run (bereaved++[.shutdown])).meter.metrics.containersTracked = 0 := by
  obtain ⟨-,-,htracked,hactive,-⟩ := gauges_track (a := fresh) rfl rfl rfl rfl bereaved
  obtain ⟨-,-,hend,-,-⟩ := gauges_track (a := fresh) rfl rfl rfl rfl (bereaved++[.shutdown])
  exact ⟨(htracked (by decide)).trans (by decide),(hactive (by decide)).trans (by decide),
    (hend (by decide)).trans (by decide)⟩

end Agent

end HostMeter
