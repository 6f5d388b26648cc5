import HostMeter.Proofs.Chain.Handed
import HostMeter.Proofs.Chain.Tracked
set_option autoImplicit false

/-! Which containers are reported about. Discoveries and changes are reported about tracked containers
alone. Samples pass the registry unasked: one that was taken before its container stopped, is reported
behind the stop. -/

namespace HostMeter

namespace Core

variable {δ ρ : Type} {k l : Core δ ρ} {r : Report} {n : String}

/-- A report about a container that is tracked neither before a step nor after it. -/
def Strays (k l : Core δ ρ) (r : Report) : Prop :=
  k.registry.isRegistered r.containerName = false ∧ l.registry.isRegistered r.containerName = false

theorem not_strays_of_before (h : k.registry.isRegistered r.containerName = true) :
    ¬k.Strays l r := by
  intro hs
  rw [hs.1] at h
  cases h

theorem not_strays_of_after (h : l.registry.isRegistered r.containerName = true) :
    ¬k.Strays l r := by
  intro hs
  rw [hs.2] at h
  cases h

variable [ContainerRuntime δ] [Backend ρ] {meterId : String} {m : Core δ (Tapped ρ)}

theorem handed_follow_name (meterId : String) (c : StateChange) (m : Core δ (Tapped ρ)) :
    ∃ rs,(m.follow meterId c).2.backend.handed = m.backend.handed++rs ∧
      ∀ r ∈ rs,r.containerName = c.containerName := by
  obtain ⟨rs,hh,hr⟩ := handed_follow meterId c m
  refine ⟨rs,hh,?_⟩
  intro r hmem
  rw [hr r hmem]
  rfl

theorem handed_discover_tracked (meterId : String) (info : Container) (m : Core δ (Tapped ρ)) :
    ∃ rs,(m.discover meterId info).2.backend.handed = m.backend.handed++rs ∧
      ∀ r ∈ rs,(m.discover meterId info).2.registry.isRegistered r.containerName = true := by
  by_cases h : (m.registry.register info).1 = .added
  · rw [discover_added h]
    obtain ⟨rs,hh,hr⟩ := handed_follow_name meterId (.ofEvent (.existed info m.clock))
      { m with registry := (m.registry.register info).2 }
    refine ⟨rs,hh,?_⟩
    intro r hmem
    have hname : r.containerName = info.name := hr r hmem
    rw [hname,follow_registry,Registry.isRegistered_register]
    simp [h]
  · rw [discover_refused h]
    exact ⟨[],(List.append_nil _).symm,by simp⟩

theorem handed_change_tracked [FaithfulRuntime δ] (meterId : String)
    (hv : FaithfulRuntime.Valid m.runtime) (hk : m.registry.Keyed) (c : StateChange) :
    ∃ rs,(m.change meterId c).2.backend.handed = m.backend.handed++rs ∧
      ∀ r ∈ rs,m.registry.isRegistered r.containerName = true := by
  cases hn : m.registry.isRegistered c.containerName with
  | false =>
    rw [change_untracked hn]
    exact ⟨[],(List.append_nil _).symm,by simp⟩
  | true =>
    cases hs : c.state with
    | running =>
      rw [change_running hn hs]
      rcases ho : m.look c with ⟨a,l⟩
      have hl := Looked.of_eq ho
      have hb := hl.keeps.backend
      cases a with
      | error p => exact ⟨[],by simp [hb],by simp⟩
      | ok c' =>
        obtain ⟨rs,hh,hr⟩ := handed_follow_name meterId c' l
        refine ⟨rs,by rw [← hb]; exact hh,?_⟩
        intro r hmem
        rw [hr r hmem,hl.containerName hv]
        exact hn
    | stopped =>
      -- The descriptor that a stop leaves with is the one the registry had under its name.
      rw [change_stopped hn hs]
      obtain ⟨rs,hh,hr⟩ := handed_follow_name meterId (c.resolvedIn m.registry)
        { m with registry := (m.registry.drop c.containerName).2 }
      refine ⟨rs,hh,?_⟩
      intro r hmem
      rw [hr r hmem,StateChange.resolvedIn_containerName hk]
      exact hn
    | unknown =>
      rw [change_unknown hn hs]
      obtain ⟨rs,hh,hr⟩ := handed_follow_name meterId c m
      refine ⟨rs,hh,?_⟩
      intro r hmem
      rw [hr r hmem]
      exact hn

/-- No report strays but that of a sample, which is handed over whatever the registry says. -/
theorem handed_send_strays [FaithfulRuntime δ] (meterId : String)
    (hv : FaithfulRuntime.Valid m.runtime) (hk : m.registry.Keyed) {msg : Message}
    (hm : ∀ r,msg ≠ .report r) :
    ∃ rs,(m.send meterId msg).2.backend.handed = m.backend.handed++rs ∧
      ∀ r,r ∈ rs ∧ m.Strays (m.send meterId msg).2 r ↔
        ∃ x,msg = .sample x ∧ r = .ofSample meterId x m.clock ∧
          m.registry.isRegistered x.container.name = false := by
  cases msg with
  | discovery info =>
    obtain ⟨rs,hh,hr⟩ := handed_discover_tracked meterId info m
    refine ⟨rs,hh,fun r => ⟨?_,by simp⟩⟩
    rintro ⟨hmem,hs⟩
    exact absurd hs (not_strays_of_after (hr r hmem))
  | change c =>
    obtain ⟨rs,hh,hr⟩ := handed_change_tracked meterId hv hk c
    refine ⟨rs,hh,fun r => ⟨?_,by simp⟩⟩
    rintro ⟨hmem,hs⟩
    exact absurd hs (not_strays_of_before (hr r hmem))
  | sample x =>
    refine ⟨[.ofSample meterId x m.clock],rfl,fun r => ⟨?_,?_⟩⟩
    · rintro ⟨hmem,hs⟩
      obtain rfl := List.mem_singleton.mp hmem
      exact ⟨x,rfl,rfl,hs.1⟩
    · rintro ⟨_,⟨⟩,rfl,hn⟩
      exact ⟨List.mem_singleton.mpr rfl,hn,hn⟩
  | report r => exact absurd rfl (hm r)
  | devnull => exact ⟨[],(List.append_nil _).symm,by simp⟩

end Core

namespace Watched

variable {δ ρ : Type} [ContainerRuntime δ] [FaithfulRuntime δ] [Backend ρ] {m : Watched δ ρ}

/-- In whatever state a meter is: the reports that a send hands over are about containers that are
tracked before it or after it, except for the one report of a sample whose container is not. -/
theorem reports_stray (s : ChainSettings) (acts : List (Act δ ρ)) (hm : m.Blank)
    (hv : FaithfulRuntime.Valid m.runtime) (ha : Along s (fun a _ => a.Valid) acts m)
    {msg : Message} (hr : ∀ r,msg ≠ .report r) :
    ∃ rs,((run s acts m).send s msg).2.backend.handed = (run s acts m).backend.handed++rs ∧
      ∀ r,r ∈ rs ∧ (run s acts m).core.Strays ((run s acts m).send s msg).2.core r ↔
        ∃ x,msg = .sample x ∧ r = .ofSample s.meterId x (run s acts m).clock ∧
          (run s acts m).registry.isRegistered x.container.name = false := by
  have hst := steady_run (hm.steady hv) ha
  obtain ⟨rs,hh,hs⟩ := Core.handed_send_strays s.meterId hst.valid hst.keyed hr
  rw [← Meter.core_send] at hh hs
  exact ⟨rs,hh,hs⟩

def spent : List (Act Fleet Inbox) :=
  [.send (.discovery web),.incident (.feed 0 {}),.incident (.instant 100),
    .send (.change (.ofEvent webDeleted))]

/-- The sample still waits in the stream when the container has stopped, and is reported. -/
theorem reports_stray_spent :
    ∃ x,(run chain spent small).drainStream.1 = [x] ∧
      Report.stops "web" (run chain spent small).backend.handed = 1 ∧
      ∃ r ∈ ((run chain spent small).send chain (.sample x)).2.backend.handed,
        r.data = .sample x ∧ r.containerName = "web" ∧
        (run chain spent small).core.Strays
          ((run chain spent small).send chain (.sample x)).2.core r := by
  obtain ⟨x,hx,hn,hc⟩ : ∃ x,(run chain spent small).drainStream.1 = [x] ∧
      (run chain spent small).registry.isRegistered x.container.name = false ∧
      x.container.name = "web" := by
    refine ⟨_,rfl,?_,?_⟩ <;> decide
  have hr : ∀ r,Message.sample x ≠ .report r := by simp
  obtain ⟨rs,hh,hs⟩ := reports_stray chain spent small_blank (Fleet.keyed_ofContainers [web])
    ⟨trivial,trivial,trivial,trivial,trivial⟩ hr
  obtain ⟨hmem,hstray⟩ := (hs _).mpr ⟨x,rfl,rfl,hn⟩
  refine ⟨x,hx,by decide,.ofSample "meter" x (run chain spent small).clock,?_,rfl,hc,hstray⟩
  rw [hh]
  exact List.mem_append_right _ hmem

end Watched

end HostMeter
