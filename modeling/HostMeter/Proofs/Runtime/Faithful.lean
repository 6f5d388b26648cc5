import HostMeter.Cgroup.Host
import HostMeter.Failing
import HostMeter.Fleet
set_option autoImplicit false

/-! The runtimes there are answer about the container they are asked for: the one in memory as long
as it keeps containers under their own names, the one that can be made to fail as long as the one
behind it does, and the one of control groups always. -/

namespace HostMeter

namespace Fleet

variable {f : Fleet} {n : String}

def Keyed (f : Fleet) : Prop := ∀ n c,f.containers.get? n = some c → c.name = n

theorem keyed_empty : Keyed {} := by
  intro n c h
  simp at h

theorem Keyed.add (h : f.Keyed) (c : Container) : (f.add c).Keyed := by
  intro n d hd
  have hd : (f.containers.insert c.name c).get? n = some d := hd
  rw [Table.get?_insert] at hd
  split at hd
  · rename_i hn
    cases hd
    exact hn.symm
  · exact h n d hd

theorem keyed_ofContainers (cs : List Container) : (ofContainers cs).Keyed := by
  have h : ∀ f : Fleet,f.Keyed → (cs.foldl (fun f c => f.add c) f).Keyed := by
    induction cs with
    | nil => exact fun f hf => hf
    | cons c cs ih => exact fun f hf => ih (f.add c) (hf.add c)
  exact h {} keyed_empty

theorem Keyed.remove (h : f.Keyed) (name : String) : (f.remove name).2.Keyed := by
  intro n c hc
  have hc : (f.containers.erase name).get? n = some c := hc
  rw [Table.get?_erase] at hc
  split at hc
  · cases hc
  · exact h n c hc

theorem openUsage_containers (n : String) (i : ChannelId) (f : Fleet) :
    (f.openUsage n i).2.containers = f.containers := by
  unfold openUsage
  split <;> rfl

instance : FaithfulRuntime Fleet where
  Valid := Keyed
  describe_name := by
    intro n f f' c hf h
    obtain ⟨h,-⟩ := Prod.mk.inj h
    unfold describe? at h
    split at h
    · rename_i hc
      cases h
      exact hf n c hc
    · cases h
  openUsage_name := by
    intro n i f f' o hf h
    have h : f.openUsage n i = (.done o,f') := h
    unfold openUsage at h
    split at h
    · rename_i c hc
      cases h
      exact hf n c hc
    · cases h
  describe_valid := fun h => h
  openUsage_valid := by
    intro n i f hf m c hc
    have hc : (f.openUsage n i).2.containers.get? m = some c := hc
    rw [openUsage_containers] at hc
    exact hf m c hc

end Fleet

namespace FailingRuntime

variable {δ α : Type}

theorem guarded_cases (fault : Option CallFault) (call : δ → Outcome RuntimeError α × δ)
    (r : FailingRuntime δ) :
    ((∀ a,(guarded fault call r).1 ≠ .done a) ∧ (guarded fault call r).2 = r) ∨
      guarded fault call r = ((call r.inner).1,{ r with inner := (call r.inner).2 }) := by
  unfold guarded
  split
  · exact .inl ⟨by simp,rfl⟩
  · exact .inl ⟨by simp,rfl⟩
  · exact .inr rfl

variable [ContainerRuntime δ] [FaithfulRuntime δ]

instance : FaithfulRuntime (FailingRuntime δ) where
  Valid r := FaithfulRuntime.Valid r.inner
  describe_name := by
    intro n r r' c hr h
    have h : guarded r.faults.describe (ContainerRuntime.describe n) r = (.done c,r') := h
    rcases guarded_cases r.faults.describe (ContainerRuntime.describe n) r with hg | hg
    · exact absurd (congrArg Prod.fst h) (hg.1 c)
    · rw [hg] at h
      have ha : (ContainerRuntime.describe n r.inner).1 = .done c := congrArg Prod.fst h
      exact FaithfulRuntime.describe_name hr (Prod.ext ha rfl)
  openUsage_name := by
    intro n i r r' o hr h
    have h : guarded r.faults.openUsage (ContainerRuntime.openUsage n i) r = (.done o,r') := h
    rcases guarded_cases r.faults.openUsage (ContainerRuntime.openUsage n i) r with hg | hg
    · exact absurd (congrArg Prod.fst h) (hg.1 o)
    · rw [hg] at h
      have ha : (ContainerRuntime.openUsage n i r.inner).1 = .done o := congrArg Prod.fst h
      exact FaithfulRuntime.openUsage_name hr (Prod.ext ha rfl)
  describe_valid := by
    intro n r hr
    show FaithfulRuntime.Valid (guarded r.faults.describe (ContainerRuntime.describe n) r).2.inner
    rcases guarded_cases r.faults.describe (ContainerRuntime.describe n) r with hg | hg
    · rw [hg.2]
      exact hr
    · rw [hg]
      exact FaithfulRuntime.describe_valid hr
  openUsage_valid := by
    intro n i r hr
    show FaithfulRuntime.Valid
      (guarded r.faults.openUsage (ContainerRuntime.openUsage n i) r).2.inner
    rcases guarded_cases r.faults.openUsage (ContainerRuntime.openUsage n i) r with hg | hg
    · rw [hg.2]
      exact hr
    · rw [hg]
      exact FaithfulRuntime.openUsage_valid hr

end FailingRuntime

namespace Cgroup

theorem Hierarchy.get_name {t : FileTree} {n : String} {h h' : Hierarchy} {p : Path} {c : Container}
    (hg : Hierarchy.get t n h = (.ok (p,c),h')) : c.name = n := by
  unfold Hierarchy.get at hg
  split at hg
  · cases hg
    rfl
  · cases hg

theorem Host.ask_get_name {n : String} {h h' : Host} {p : Path} {c : Container}
    (hg : h.ask (fun t => Hierarchy.get t n) = (.ok (p,c),h')) : c.name = n := by
  have hf := congrArg Prod.fst hg
  exact Hierarchy.get_name (Prod.ext hf rfl)

instance : FaithfulRuntime Host where
  Valid _ := True
  describe_name := by
    intro n h h' c _ hd
    simp only [ContainerRuntime.describe] at hd
    split at hd
    · rename_i hg
      cases hd
      exact Host.ask_get_name hg
    · cases hd
  openUsage_name := by
    intro n i h h' o _ ho
    have ho : h.startSampler n i = (.done o,h') := ho
    unfold Host.startSampler at ho
    split at ho
    · rename_i hg
      cases ho
      exact Host.ask_get_name hg
    · cases ho
  describe_valid := fun _ => trivial
  openUsage_valid := fun _ => trivial

end Cgroup

end HostMeter
