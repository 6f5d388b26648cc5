import HostMeter.Proofs.Chain.Handed
import HostMeter.Proofs.Chain.Run
set_option autoImplicit false

/-! No stop is lost and none is reported twice: over every run, the registrations of a name are as many
as the stops about it that were handed over, and one more while it is registered. -/

namespace HostMeter

variable {δ ρ : Type} [ContainerRuntime δ]

namespace Act

def registers (n : String) : Act δ ρ → Watched δ ρ → Nat
  | .send msg,m => m.registry.gains n msg
  | .enlist e,m =>
    match (ContainerRuntime.describe e.containerName m.runtime).1 with
    | .done info => m.registry.adds info n
    | _ => 0
  | .incident _,_ => 0

/-- No report is sent by hand, and no poll loop has crashed. -/
def Regular (a : Act δ ρ) (m : Watched δ ρ) : Prop :=
  (∀ r,a ≠ .send (.report r)) ∧ m.collector.Unharmed

variable [Backend ρ]

theorem enlist_balance (s : ChainSettings) (e : Event) (m : Watched δ ρ) (n : String) :
    registers n (.enlist e) m+m.registry.holds n = (take s (.enlist e) m).registry.holds n := by
  rw [← Meter.core_registry (take s (.enlist e) m),core_enlist,Core.enlist_registry]
  simp only [registers,Meter.core_runtime,Meter.core_registry]
  cases (ContainerRuntime.describe e.containerName m.runtime).1 with
  | done info => exact m.registry.adds_balance info n
  | failed err => exact Nat.zero_add _
  | crashed => exact Nat.zero_add _

theorem balance (s : ChainSettings) {a : Act δ ρ} {m : Watched δ ρ} (ho : m.core.Orderly)
    (ha : a.Regular m) :
    ∃ rs,(a.take s m).backend.handed = m.backend.handed++rs ∧ (∀ r ∈ rs,r.Settled) ∧
      ∀ n,a.registers n m+m.registry.holds n =
        Report.stops n rs+(a.take s m).registry.holds n := by
  rw [← Meter.core_backend,← Meter.core_registry (a.take s m)]
  cases a with
  | send msg =>
    have hm : ∀ r,msg ≠ .report r := fun r hr => ha.1 r (congrArg Act.send hr)
    obtain ⟨rs,hh,hs,hr⟩ := Core.handed_send s.meterId ho.keyed ho.sound ha.2 hm
    rw [core_send]
    refine ⟨rs,hh,hr,?_⟩
    intro n
    rw [hs n,Core.send_registry]
    exact m.registry.heed_balance msg n
  | enlist e =>
    refine ⟨[],?_,by simp,?_⟩
    · rw [core_enlist,(Core.enlist_keeps e m.core).2.1,List.append_nil]
      rfl
    · intro n
      rw [enlist_balance s e m n]
      exact (Nat.zero_add _).symm
  | incident o =>
    refine ⟨[],?_,by simp,?_⟩
    · rw [List.append_nil]
      exact o.take_handed m
    · intro n
      show 0+m.registry.holds n = 0+(o.take m).registry.holds n
      rw [o.take_registry]

end Act

namespace Watched

variable [Backend ρ]

def registrations (s : ChainSettings) (n : String) : List (Act δ ρ) → Watched δ ρ → Nat
  | [],_ => 0
  | a :: acts,m => a.registers n m+registrations s n acts (a.take s m)

theorem balance_run (s : ChainSettings) {acts : List (Act δ ρ)} {m : Watched δ ρ} (ho : m.core.Orderly)
    (ha : Along s Act.Regular acts m) :
    ∃ rs,(run s acts m).backend.handed = m.backend.handed++rs ∧ (∀ r ∈ rs,r.Settled) ∧
      ∀ n,registrations s n acts m+m.registry.holds n =
        Report.stops n rs+(run s acts m).registry.holds n := by
  induction acts generalizing m with
  | nil => exact ⟨[],(List.append_nil _).symm,by simp,fun n => rfl⟩
  | cons a acts ih =>
    obtain ⟨rs,hh,hr,hb⟩ := Act.balance s ho ha.1
    obtain ⟨ss,hh',hr',hb'⟩ := ih (Act.take_orderly ho s a) ha.2
    refine ⟨rs++ss,?_,?_,?_⟩
    · rw [run_cons,hh',hh,List.append_assoc]
    · intro r hmem
      rcases List.mem_append.mp hmem with hmem | hmem
      · exact hr r hmem
      · exact hr' r hmem
    · intro n
      have hn := hb n
      have hn' := hb' n
      rw [Report.stops_append,run_cons]
      simp only [registrations]
      omega

/-- From a blank meter on, the registrations of every name are the stops about it that were handed
over, and one more while it is registered; and each of these stops carries a descriptor. -/
theorem stops_conserved (s : ChainSettings) (acts : List (Act δ ρ)) {m : Watched δ ρ}
    (hm : m.Blank) (ha : Along s Act.Regular acts m) :
    (∀ n,registrations s n acts m =
      Report.stops n (run s acts m).backend.handed+
        if (run s acts m).registry.isRegistered n then 1 else 0) ∧
      ∀ r ∈ (run s acts m).backend.handed,r.Settled := by
  obtain ⟨rs,hh,hr,hb⟩ := balance_run s hm.orderly ha
  rw [hm.handed,List.nil_append] at hh
  rw [hh]
  refine ⟨?_,hr⟩
  intro n
  have hn := hb n
  have h0 : m.registry.holds n = 0 := by
    simp [Registry.holds,Registry.isRegistered_eq,Registry.get?,hm.registry]
  rw [h0,Nat.add_zero] at hn
  rw [hn]
  simp only [Registry.holds]
  cases (run s acts m).registry.isRegistered n <;> rfl

/-- A container is discovered and deleted, and its one registration ends in one stop. -/
theorem stops_conserved_small :
    Report.stops "web" (run chain [.send (.discovery web),.send (.change (.ofEvent webDeleted))]
      small).backend.handed = 1 := by
  have h := stops_conserved chain
    [.send (.discovery web),.send (.change (.ofEvent webDeleted))] small_blank
    ⟨⟨by simp,by decide⟩,⟨by simp,by decide⟩,trivial⟩
  have hr : registrations chain "web"
      [.send (.discovery web),.send (.change (.ofEvent webDeleted))] small = 1 := by decide
  have hn : (run chain [.send (.discovery web),.send (.change (.ofEvent webDeleted))]
      small).registry.isRegistered "web" = false := by decide
  have hw := h.1 "web"
  rw [hr,hn] at hw
  exact hw.symm

end Watched

end HostMeter
