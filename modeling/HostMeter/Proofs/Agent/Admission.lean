import HostMeter.Agent
import HostMeter.Proofs.Core
set_option autoImplicit false

/-! What an event makes of the core of a meter before anything is sent: the subject of an event is the
container registered under its name, or one that is looked up and registered there and then. -/

namespace HostMeter

variable {δ ρ : Type} [ContainerRuntime δ]

namespace Core

def enlist (e : Event) (k : Core δ ρ) : Option Container × Core δ ρ :=
  match ContainerRuntime.describe e.containerName k.runtime with
  | (.done info,runtime) =>
    match k.registry.register info with
    | (.added,registry) => (some info,{ k with runtime, registry })
    | (.present,_) => (k.registry.get? e.containerName,{ k with runtime })
    | (.notTrackable,_) => (none,{ k with runtime })
  | (_,runtime) => (none,{ k with runtime })

def subject (e : Event) (k : Core δ ρ) : Option Container × Core δ ρ :=
  match k.registry.get? e.containerName with
  | some info => (some info,k)
  | none => if State.ofEvent e.type = .running then k.enlist e else (none,k)

variable {e : Event} {k : Core δ ρ} {info : Container} {runtime : δ}

theorem enlist_added
    (h : ContainerRuntime.describe e.containerName k.runtime = (.done info,runtime))
    (hr : (k.registry.register info).1 = .added) :
    k.enlist e = (some info,{ k with runtime, registry := (k.registry.register info).2 }) := by
  rcases ho : k.registry.register info with ⟨a,registry⟩
  rw [ho] at hr
  simp only at hr
  subst hr
  simp only [enlist,h,ho]

theorem enlist_present
    (h : ContainerRuntime.describe e.containerName k.runtime = (.done info,runtime))
    (hr : (k.registry.register info).1 = .present) :
    k.enlist e = (k.registry.get? e.containerName,{ k with runtime }) := by
  rcases ho : k.registry.register info with ⟨a,registry⟩
  rw [ho] at hr
  simp only at hr
  subst hr
  simp only [enlist,h,ho]

theorem enlist_notTrackable
    (h : ContainerRuntime.describe e.containerName k.runtime = (.done info,runtime))
    (hr : (k.registry.register info).1 = .notTrackable) :
    k.enlist e = (none,{ k with runtime }) := by
  rcases ho : k.registry.register info with ⟨a,registry⟩
  rw [ho] at hr
  simp only at hr
  subst hr
  simp only [enlist,h,ho]

theorem enlist_unanswered {a : Outcome RuntimeError Container}
    (h : ContainerRuntime.describe e.containerName k.runtime = (a,runtime))
    (ha : ∀ info,a ≠ .done info) : k.enlist e = (none,{ k with runtime }) := by
  cases a with
  | done info => exact absurd rfl (ha info)
  | failed err => simp only [enlist,h]
  | crashed => simp only [enlist,h]

theorem enlist_keeps (e : Event) (k : Core δ ρ) :
    (k.enlist e).2.collector = k.collector ∧ (k.enlist e).2.backend = k.backend ∧
      (k.enlist e).2.clock = k.clock ∧
      (k.enlist e).2.runtime = (ContainerRuntime.describe e.containerName k.runtime).2 := by
  rcases h : ContainerRuntime.describe e.containerName k.runtime with ⟨a,runtime⟩
  cases a with
  | done info =>
    cases hr : (k.registry.register info).1 with
    | added =>
      rw [enlist_added h hr]
      exact ⟨rfl,rfl,rfl,rfl⟩
    | present =>
      rw [enlist_present h hr]
      exact ⟨rfl,rfl,rfl,rfl⟩
    | notTrackable =>
      rw [enlist_notTrackable h hr]
      exact ⟨rfl,rfl,rfl,rfl⟩
  | failed err =>
    rw [enlist_unanswered h (by simp)]
    exact ⟨rfl,rfl,rfl,rfl⟩
  | crashed =>
    rw [enlist_unanswered h (by simp)]
    exact ⟨rfl,rfl,rfl,rfl⟩

theorem enlist_registry (e : Event) (k : Core δ ρ) :
    (k.enlist e).2.registry =
      match (ContainerRuntime.describe e.containerName k.runtime).1 with
      | .done info => (k.registry.register info).2
      | _ => k.registry := by
  rcases h : ContainerRuntime.describe e.containerName k.runtime with ⟨a,runtime⟩
  cases a with
  | done info =>
    cases hr : (k.registry.register info).1 with
    | added => rw [enlist_added h hr]
    | present =>
      rw [enlist_present h hr]
      exact (Registry.register_snd_of_ne (by simp [hr])).symm
    | notTrackable =>
      rw [enlist_notTrackable h hr]
      exact (Registry.register_snd_of_ne (by simp [hr])).symm
  | failed err => rw [enlist_unanswered h (by simp)]
  | crashed => rw [enlist_unanswered h (by simp)]

end Core

namespace Agent

theorem outcome_enlist (meterId : String) (e : Event) (m : Meter δ ρ) :
    ((enlist meterId e m).1,(enlist meterId e m).2.core) = m.core.enlist e := by
  rcases h : ContainerRuntime.describe e.containerName m.runtime with ⟨a,runtime⟩
  have hd : m.describe e.containerName = (a,{ m with runtime }) := by
    simp only [Meter.describe,h]
  cases a with
  | done info =>
    have hk := Meter.core_register info { m with runtime }
    have hf := Meter.register_fst info { m with runtime }
    rcases hm : Meter.register info { m with runtime } with ⟨r,m'⟩
    rw [hm] at hk hf
    simp only at hk hf
    cases ht : m.registry.isTrackable info with
    | false =>
      rw [Core.enlist_notTrackable h (by simp [Registry.register_untrackable ht])]
      simp only [enlist,hd,ht,Bool.not_false,if_true,Meter.core_note]
      rfl
    | true =>
      cases hn : m.registry.isRegistered info.name with
      | true =>
        have hr : r = .present := by rw [hf,Registry.register_present ht hn]
        subst hr
        have hc : m'.core = { m.core with runtime } := by
          rw [hk]
          simp only [Registry.register_present ht hn]
          rfl
        have hg : m'.registry = m.registry := congrArg Core.registry hc
        rw [Core.enlist_present h (by simp [Registry.register_present ht hn])]
        simp only [enlist,hd,ht,Bool.not_true,Bool.false_eq_true,if_false,hm,hc,hg]
        rfl
      | false =>
        have ha := Registry.register_added ht hn
        have hr : r = .added := by rw [hf,ha]
        subst hr
        have he : enlist meterId e m =
            (some info,note (.tracking meterId info.name info.imageName e.type.tag)
              m'.countTracked) := by
          simp only [enlist,hd,ht,Bool.not_true,Bool.false_eq_true,if_false,hm]
        rw [Core.enlist_added h (by simp [ha]),he,Meter.core_note,Meter.core_countTracked,hk]
        rfl
  | failed err =>
    rw [Core.enlist_unanswered h (by simp)]
    cases err <;> simp only [enlist,hd,Meter.core_note] <;> rfl
  | crashed =>
    rw [Core.enlist_unanswered h (by simp)]
    simp only [enlist,hd]
    rfl

theorem outcome_subject (meterId : String) (e : Event) (m : Meter δ ρ) :
    ((subject meterId e m).1,(subject meterId e m).2.core) = m.core.subject e := by
  unfold subject Core.subject
  rw [Meter.core_registry]
  cases m.registry.get? e.containerName with
  | some info => rfl
  | none =>
    by_cases hs : State.ofEvent e.type = .running
    · simp only [hs,if_true]
      exact outcome_enlist meterId e m
    · simp only [hs,if_false,Meter.core_note]

end Agent

end HostMeter
