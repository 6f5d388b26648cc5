import HostMeter.Inbox
import HostMeter.Proofs.Agent.Occurrences
import HostMeter.Proofs.Cgroup.Scan
import HostMeter.Proofs.Tracking.Reachable
set_option autoImplicit false

/-! An agent warns at its start of a policy that cannot match anything. The warning is right about the
containers, and over the cgroup files it is right for good: whatever such an agent goes through, nothing
is ever registered. -/

namespace HostMeter

variable {δ ρ : Type} [ContainerRuntime δ]

namespace Agent

/-- Whether the policy of a meter can match anything that its runtime describes. -/
def reaches (m : Meter δ ρ) : Bool :=
  m.registry.policy.reachable (ContainerRuntime.labelKeys m.runtime)

theorem prepare_log (m : Meter δ ρ) :
    (prepare m).log =
      (if reaches m then []
        else [.policyUnreachable m.registry.policy.label m.registry.policy.envKey])++m.log := by
  cases h : m.registry.policy.reachable (ContainerRuntime.labelKeys m.runtime) <;>
    simp [prepare,reaches,h,note]

end Agent

def Message.Discovers (D : Container → Prop) (msg : Message) : Prop := ∀ c,msg = .discovery c → D c

namespace Agent

variable [Backend ρ] {D : Container → Prop} {R : Registry → Prop}

theorem lasting_registry (hd : Describing δ D)
    (hr : ∀ msg r,Message.Discovers D msg → R r → R (r.heed msg)) :
    Lasting (fun m : Meter δ ρ => R m.registry) (Message.Discovers D) where
  congr h registry _ _ _ := registry ▸ h
  perform x m h := by
    have hp : (m.perform x).registry = m.registry :=
      congrArg Core.registry (Meter.core_sampling (fun c => ((),x.take c)) m)
    rwa [hp]
  instant t m h := by
    have hi : (m.instant t).registry = m.registry := congrArg Core.registry (Meter.core_instant t m)
    rwa [hi]
  stopAll {m} h := by
    have hs : m.stopAll.2.registry = m.registry := congrArg Core.registry (Meter.core_sampling _ m)
    rwa [hs]
  enlist meterId e m h := by
    have he : (enlist meterId e m).2.registry = (m.core.enlist e).2.registry :=
      congrArg Core.registry (core_enlist meterId e m)
    rw [he,Core.enlist_registry]
    split
    · rename_i c hc
      refine hr (.discovery c) m.registry (fun c' hc' => ?_) h
      cases hc'
      exact hd.described (Prod.ext hc rfl)
    · exact h
  send s msg hi m h := by
    have hs : (m.send s msg).2.registry = m.registry.heed msg :=
      (congrArg Core.registry (Meter.core_send s msg m)).trans (Core.send_registry s.meterId msg m.core)
    rw [hs]
    exact hr msg m.registry hi h
  listed hl c hc c' hc' := by
    cases hc'
    exact hd.listed hl c hc
  change _ _ h := by cases h
  sample _ _ h := by cases h

variable {declared : Option (List String)} {p : Policy}

theorem heed_unreachable (hp : p.reachable declared = false) {msg : Message}
    (hm : msg.Discovers (Container.Declared declared)) {r : Registry} (hr : r = ⟨p,.empty⟩) :
    r.heed msg = ⟨p,.empty⟩ := by
  subst hr
  cases msg with
  | discovery c =>
    have ht : (⟨p,.empty⟩ : Registry).isTrackable c = false :=
      Policy.untrackable_of_unreachable hp (hm c rfl)
    exact congrArg Prod.snd (Registry.register_untrackable ht)
  | change c =>
    have hn : (⟨p,.empty⟩ : Registry).isRegistered c.containerName = false := rfl
    simp only [Registry.heed,Registry.drop_of_not_isRegistered hn,ite_self]
  | sample | report | devnull => rfl

/-- The agent warns just when its policy reaches nothing that its runtime can describe. If it does not
warn, there is a container with declared labels that it would track; if it does, there is none, in any
environment. The labels that are read off the files of a cgroup are declared, whatever the files are. So
an agent over them that has warned tracks nothing ever, whatever becomes of the files meanwhile, as long as
nobody else slips in containers with labels of another kind. -/
theorem warning_exact (m : Meter δ ρ)
    (hk : ∀ keys,ContainerRuntime.labelKeys m.runtime = some keys → "" ∉ keys) :
    let declared := ContainerRuntime.labelKeys m.runtime
    let p := m.registry.policy
    ((prepare m).log = (if reaches m then [] else [.policyUnreachable p.label p.envKey])++m.log) ∧
      (reaches m = false → ∀ c : Container,c.Declared declared → p.isTrackable c = false) ∧
      (reaches m = true → ∃ c : Container,c.Declared declared ∧ p.isTrackable c = true) ∧
      (∀ t root proc machine f,
        (Cgroup.describe t root proc machine f).Declared (some Cgroup.labelKeys)) ∧
      ∀ (a : Agent Cgroup.Host ρ) (xs : List (Occurrence Cgroup.Host ρ)),
        reaches a.meter = false → a.meter.registry.containers = .empty → a.dispatcher.queue = [] →
        (∀ c,.queue (.discovery c) ∈ xs → c.Declared (some Cgroup.labelKeys)) →
        (a.run xs).meter.registry = a.meter.registry := by
  intro declared p
  refine ⟨prepare_log m,fun h c hc => Policy.untrackable_of_unreachable h hc,
    fun h => Policy.exists_of_reachable hk h,Cgroup.describe_declared,fun a xs h he hq hx => ?_⟩
  have hr : a.meter.registry = ⟨a.meter.registry.policy,.empty⟩ := by rw [← he]
  have hl := lasting_registry (ρ := ρ) (R := fun r => r = ⟨a.meter.registry.policy,.empty⟩)
    Cgroup.Host.describing fun _ _ hi hr => heed_unreachable h hi hr
  have hrun := (hl.run ⟨hr,by rw [hq]; exact List.forall_mem_nil _⟩
    fun msg hmem c hc => hx c (hc ▸ hmem)).meter
  exact hrun.trans hr.symm

def barred : Agent Cgroup.Host Inbox :=
  .ofSettings { meterId := "meter", policy := ⟨"track",""⟩, rateMs := 100 }
    { files := .dir [(Cgroup.idOf 'a',.dir [Cgroup.statFile])]
      hierarchy := { root := [], rootText := "/", proc := ["proc"], machine := none, rateMs := 100 } }
    {} {} 0

theorem warning_exact_barred :
    (prepare barred.meter).log = [.policyUnreachable "track" ""] ∧
      (∀ c : Container,c.Declared (some Cgroup.labelKeys) → barred.meter.registry.isTrackable c = false) ∧
      (barred.run [.start {},.settle,.advance 100,.shutdown]).meter.registry = ⟨⟨"track",""⟩,.empty⟩ := by
  have hk : ∀ keys,ContainerRuntime.labelKeys barred.meter.runtime = some keys → "" ∉ keys := by
    rintro keys ⟨⟩
    decide
  have hr : reaches barred.meter = false := by decide
  obtain ⟨hlog,hnone,-,-,hrun⟩ := warning_exact barred.meter hk
  exact ⟨hlog.trans (by rw [hr]; rfl),hnone hr,hrun barred _ hr rfl rfl (by simp)⟩

end Agent

end HostMeter
