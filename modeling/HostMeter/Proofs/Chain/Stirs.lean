import HostMeter.Proofs.Core
import HostMeter.Proofs.Pipeline
import Mathlib.Logic.Relation
set_option autoImplicit false

/-! What filters do to a meter comes down to a few steps. Whatever each of these keeps, every filter of
the standard chain keeps but the reporter, which hands reports over. -/

namespace HostMeter

namespace Meter

variable {δ ρ : Type} {m m' : Meter δ ρ}

/-- One step on a meter. A container is entered or dropped together with its count. -/
inductive Stir : Meter δ ρ → Meter δ ρ → Prop
  | note (n : Notice) (m : Meter δ ρ) : Stir m (note n m)
  | enter {c : Container} {m : Meter δ ρ} :
      (m.registry.register c).1 = .added → Stir m (m.register c).2.countTracked
  | leave (name : String) (m : Meter δ ρ) : Stir m (m.drop name).2.countTracked
  | collect (i : ChannelId) (m : Meter δ ρ) : Stir m (m.collect i).2
  | stop (name : String) (m : Meter δ ρ) : Stir m (m.stopCollecting name).2
  | stopAll (m : Meter δ ρ) : Stir m m.stopAll.2
  | instant (t : Nat) (m : Meter δ ρ) : Stir m (m.instant t)
  | channels (channels : UsageChannels) (m : Meter δ ρ) : Stir m (m.setChannels channels)
  | runtime (runtime : δ) (m : Meter δ ρ) : Stir m { m with runtime }
  | unhandled (m : Meter δ ρ) : Stir m { m with metrics := m.metrics.incUnhandled }

abbrev Stirs : Meter δ ρ → Meter δ ρ → Prop := Relation.ReflTransGen Stir

namespace Stirs

theorem keeps {P : Meter δ ρ → Prop} (step : ∀ m m',Stir m m' → P m → P m') (h : Stirs m m')
    (hm : P m) : P m' := by
  induction h with
  | refl => exact hm
  | tail _ hs ih => exact step _ _ hs ih

theorem part_eq {α : Type} {part : Meter δ ρ → α} (step : ∀ m m',Stir m m' → part m' = part m)
    (h : Stirs m m') : part m' = part m :=
  h.keeps (P := fun l => part l = part m) (fun _ _ hs hl => (step _ _ hs).trans hl) rfl

theorem note (h : Stirs m m') (n : Notice) : Stirs m (note n m') := h.tail (.note n m')

theorem noteAll (h : Stirs m m') (ns : List Notice) : Stirs m (m'.noteAll ns) := by
  induction ns generalizing m' with
  | nil => exact h
  | cons n ns ih => exact ih (h.note n)

theorem cutChannel (h : Stirs m m') (i : Option ChannelId) : Stirs m (m'.cutChannel i) := by
  cases i with
  | none => exact h
  | some i => exact h.tail (.channels _ m')

theorem withRuntime (h : Stirs m m') (runtime : δ) : Stirs m { m' with runtime } :=
  h.tail (.runtime runtime m')

end Stirs

theorem stirs_added {c : Container} (h : m.register c = (.added,m')) : Stirs m m'.countTracked := by
  have ha : (m.registry.register c).1 = .added := congrArg Prod.fst h
  have he : Stirs m (m.register c).2.countTracked := .single (.enter ha)
  rwa [h] at he

theorem stirs_refused {c : Container} {a : Registration} (h : m.register c = (a,m'))
    (ha : a ≠ .added) : Stirs m m' := by
  have hf : (m.registry.register c).1 = a := congrArg Prod.fst h
  let ns := (m.registry.register c).1.notices c.name
  have hr : (m.register c).2 = m.noteAll ns :=
    congrArg (fun registry => noteAll ns { m with registry })
      (Registry.register_snd_of_ne (by rwa [hf]))
  have hm : m' = m.noteAll ns := by rw [← hr,h]
  rw [hm]
  exact Stirs.noteAll .refl ns

variable [ContainerRuntime δ]

theorem stirs_describe (name : String) (m : Meter δ ρ) : Stirs m (m.describe name).2 :=
  Stirs.withRuntime .refl _

theorem stirs_openUsage (name : String) (m : Meter δ ρ) : Stirs m (m.openUsage name).2 := by
  rcases h : ContainerRuntime.openUsage name m.channels.next m.runtime with ⟨o,runtime⟩
  have hr : Stirs m { m with runtime } := Stirs.withRuntime .refl runtime
  cases o with
  | done o =>
    simp only [openUsage,h]
    exact Stirs.noteAll (Stirs.cutChannel (hr.tail (.channels _ _)) o.abandoned) o.notices
  | failed e =>
    simp only [openUsage,h]
    exact hr
  | crashed =>
    simp only [openUsage,h]
    exact hr

end Meter

/-- All that a filter does comes down to steps. -/
def Filter.Stirring {δ ρ : Type} (f : Filter (Meter δ ρ)) : Prop :=
  ∀ msg m,Meter.Stirs m (f.handle msg m).2

theorem Filter.Stirring.pass {δ ρ : Type} {f : Filter (Meter δ ρ)} (hf : f.Stirring) (msg : Message)
    (m : Meter δ ρ) : Meter.Stirs m (f.pass msg m).2 :=
  Filter.pass_keeps (fun n _ h => Meter.Stirs.note h n) (hf msg m)

namespace Chain

open Meter

variable {δ ρ : Type}

theorem stirs_discover (meterId : String) (c : Container) (m : Meter δ ρ) :
    Stirs m (discover meterId c m).2 := by
  cases ht : m.registry.isTrackable c with
  | false =>
    simp only [discover,ht]
    exact Stirs.note .refl _
  | true =>
    rcases hm : m.register c with ⟨a,m'⟩
    simp only [discover,ht,hm,Bool.not_true,Bool.false_eq_true,if_false]
    cases a with
    | added => exact Stirs.note (stirs_added hm) _
    | present => exact Stirs.note (stirs_refused hm (by simp)) _
    | notTrackable => exact stirs_refused hm (by simp)

theorem stirs_change (meterId : String) (c : StateChange) (m : Meter δ ρ) :
    Stirs m (change meterId c m).2 := by
  cases hn : m.registry.isRegistered c.containerName with
  | false =>
    simp only [change,hn]
    exact Stirs.note .refl _
  | true =>
    by_cases hs : c.state = .stopped
    · simp only [change,hn,hs,Bool.not_true,Bool.false_eq_true,if_false,if_true]
      exact Stirs.note (.single (.leave _ m)) _
    · simp only [change,hn,hs,Bool.not_true,Bool.false_eq_true,if_false]
      exact .refl

theorem Stirs.attach {m m' : Meter δ ρ} (h : Stirs m m') (c : StateChange) (found : Option Container) :
    Stirs m (attach c found m').2 := by
  cases found with
  | none => exact h.note _
  | some info => exact h

theorem stirs_resolve [ContainerRuntime δ] (c : StateChange) (m : Meter δ ρ) :
    Stirs m (resolve c m).2 := by
  cases hc : c.isResolved with
  | true =>
    simp only [resolve,hc,if_true]
    exact .refl
  | false =>
    cases hs : c.state with
    | running =>
      have hd := stirs_describe c.containerName m
      rcases hm : m.describe c.containerName with ⟨o,m'⟩
      rw [hm] at hd
      simp only [resolve,hc,hs,hm,Bool.false_eq_true,if_false]
      cases o with
      | done info => exact Stirs.attach hd c (some info)
      | failed e =>
        cases e with
        | notFound n => exact Stirs.attach (hd.note _) c none
        | _ => exact hd
      | crashed => exact hd
    | stopped =>
      simp only [resolve,hc,hs]
      exact Stirs.attach .refl c _
    | unknown =>
      simp only [resolve,hc,hs]
      exact Stirs.attach .refl c none

theorem stirs_startSampling [ContainerRuntime δ] (name : String) (m : Meter δ ρ) :
    Stirs m (startSampling name m).2 := by
  cases hc : m.collector.isCollecting name with
  | true =>
    simp only [startSampling,hc,if_true]
    exact Stirs.note .refl _
  | false =>
    have ho := stirs_openUsage name m
    rcases hm : m.openUsage name with ⟨o,m'⟩
    rw [hm] at ho
    simp only [startSampling,hc,hm,Bool.false_eq_true,if_false]
    cases o with
    | done i => exact ho.tail (.collect i m')
    | failed e => exact ho
    | crashed => exact ho

theorem stirs_stopSampling (name : String) (m : Meter δ ρ) : Stirs m (stopSampling name m).2 := by
  have hs : Stirs m (m.stopCollecting name).2 := .single (.stop name m)
  rcases hm : m.stopCollecting name with ⟨a,m'⟩
  rw [hm] at hs
  simp only [stopSampling,hm]
  cases a with
  | channel i => exact hs.tail (.channels _ m')
  | notFound => exact hs.note _
  | lost => exact hs

theorem logger_stirring : (logger : Filter (Meter δ ρ)).Stirring := fun _ _ => Stirs.note .refl _

theorem registry_stirring (meterId : String) : (registry meterId : Filter (Meter δ ρ)).Stirring := by
  intro msg m
  cases msg with
  | discovery c => exact stirs_discover meterId c m
  | change c => exact stirs_change meterId c m
  | _ => exact .refl

theorem containerResolver_stirring [ContainerRuntime δ] :
    (containerResolver : Filter (Meter δ ρ)).Stirring := by
  intro msg m
  cases msg with
  | change c => exact stirs_resolve c m
  | _ => exact .refl

theorem serviceResolver_stirring (serviceKey : String) :
    (serviceResolver serviceKey : Filter (Meter δ ρ)).Stirring := by
  intro msg m
  cases msg with
  | change c => exact Stirs.noteAll .refl _
  | _ => exact .refl

theorem sampleCollector_stirring [ContainerRuntime δ] :
    (sampleCollector : Filter (Meter δ ρ)).Stirring := by
  intro msg m
  cases msg with
  | discovery c => exact stirs_startSampling c.name m
  | change c =>
    cases hs : c.state <;> simp only [sampleCollector,hs]
    · exact stirs_startSampling c.containerName m
    · exact stirs_stopSampling c.containerName m
    · exact .refl
  | _ => exact .refl

theorem reportGenerator_stirring (meterId : String) :
    (reportGenerator meterId : Filter (Meter δ ρ)).Stirring := by
  intro msg m
  cases msg <;> exact .refl

theorem notHandled_stirring : (notHandled : Filter (Meter δ ρ)).Stirring :=
  fun _ m => Stirs.note (.single (.unhandled m)) _

/-- Only the reporter does more than steps, and goes by its name. -/
theorem standard_stirring [ContainerRuntime δ] [Backend ρ] (s : ChainSettings)
    {f : Filter (Meter δ ρ)} (hf : f ∈ standard s) :
    f = reporter s ∨ f.name ≠ "reporter" ∧ f.Stirring := by
  simp only [standard,List.mem_cons,List.not_mem_nil,or_false] at hf
  rcases hf with rfl | rfl | rfl | rfl | rfl | rfl | rfl | rfl
  · exact .inr ⟨by simp [logger],logger_stirring⟩
  · exact .inr ⟨by simp [registry],registry_stirring s.meterId⟩
  · exact .inr ⟨by simp [containerResolver],containerResolver_stirring⟩
  · exact .inr ⟨by simp [serviceResolver],serviceResolver_stirring s.serviceKey⟩
  · exact .inr ⟨by simp [sampleCollector],sampleCollector_stirring⟩
  · exact .inr ⟨by simp [reportGenerator],reportGenerator_stirring s.meterId⟩
  · exact .inl rfl
  · exact .inr ⟨by simp [notHandled],notHandled_stirring⟩

end Chain

end HostMeter
