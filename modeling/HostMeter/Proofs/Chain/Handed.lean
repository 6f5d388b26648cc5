import HostMeter.Proofs.Chain.Effects
import HostMeter.Proofs.Watched
set_option autoImplicit false

/-! The reports that a send hands over. A backend that is tapped shows them all; they are the reports
of the changes that were followed, and those of stops are as many as the registry has lost names. -/

namespace HostMeter

namespace Report

def isStopOf (n : String) (r : Report) : Bool :=
  match r.data with
  | .change c => decide (c.state = .stopped ∧ c.containerName = n)
  | .sample _ => false

def stops (n : String) (rs : List Report) : Nat := rs.countP (isStopOf n)

/-- A stop that is reported carries a descriptor. -/
def Settled (r : Report) : Prop :=
  ∀ c,r.data = .change c → c.state = .stopped → c.isResolved = true

theorem stops_append (n : String) (rs ss : List Report) :
    stops n (rs++ss) = stops n rs+stops n ss := List.countP_append

/-- One registration is balanced by a stop or by what is registered still. -/
theorem exists_stop_iff {n : String} {rs : List Report} {b : Bool}
    (h : stops n rs+b.toNat = 1) : (∃ r ∈ rs,r.isStopOf n = true) ↔ b = false := by
  rw [← List.countP_pos_iff]
  show 0 < stops n rs ↔ _
  cases b with
  | true =>
    rw [Bool.toNat_true] at h
    simp
    omega
  | false =>
    rw [Bool.toNat_false] at h
    simp
    omega

theorem isStopOf_ofChange (n meterId : String) (c : StateChange) (now : Timestamp) :
    isStopOf n (.ofChange meterId c now) = decide (c.state = .stopped ∧ c.containerName = n) := rfl

variable {meterId : String} {c : StateChange} {now : Timestamp}

theorem stops_ofChange (n : String) :
    stops n [.ofChange meterId c now] =
      if c.state = .stopped ∧ c.containerName = n then 1 else 0 := by
  simp only [stops,List.countP_cons,List.countP_nil,isStopOf_ofChange,decide_eq_true_eq,Nat.zero_add]

theorem quiet_of_change {rs : List Report} (hs : c.state ≠ .stopped)
    (h : ∀ r ∈ rs,r = .ofChange meterId c now) :
    (∀ n,stops n rs = 0) ∧ ∀ r ∈ rs,r.Settled := by
  refine ⟨?_,?_⟩
  · intro n
    rw [stops,List.countP_eq_zero]
    intro r hr
    rw [h r hr,isStopOf_ofChange]
    simp [hs]
  · intro r hr c' hc' hs'
    rw [h r hr] at hc'
    cases hc'
    exact absurd hs' hs

end Report

namespace Registry

def adds (r : Registry) (c : Container) (n : String) : Nat :=
  if (r.register c).1 = .added ∧ n = c.name then 1 else 0

def gains (r : Registry) (n : String) : Message → Nat
  | .discovery c => r.adds c n
  | _ => 0

def loses (r : Registry) (n : String) : Message → Nat
  | .change c =>
    if c.state = .stopped ∧ c.containerName = n ∧ r.isRegistered n = true then 1 else 0
  | _ => 0

def holds (r : Registry) (n : String) : Nat := (r.isRegistered n).toNat

theorem adds_balance (r : Registry) (c : Container) (n : String) :
    r.adds c n+r.holds n = (r.register c).2.holds n := by
  unfold adds holds
  rw [isRegistered_register]
  by_cases h : (r.register c).1 = .added ∧ n = c.name
  · obtain ⟨ha,rfl⟩ := h
    simp [ha,(register_eq_added_iff.mp ha).2]
  · simp [h]

theorem heed_balance (r : Registry) (msg : Message) (n : String) :
    r.gains n msg+r.holds n = r.loses n msg+(r.heed msg).holds n := by
  cases msg with
  | discovery c => simpa [gains,loses,heed] using r.adds_balance c n
  | change c =>
    simp only [gains,loses,heed,holds]
    by_cases hs : c.state = .stopped
    · rw [if_pos hs,isRegistered_drop]
      by_cases hn : c.containerName = n
      · subst hn
        cases hr : r.isRegistered c.containerName <;> simp [hs]
      · have hm : n ≠ c.containerName := fun h => hn h.symm
        simp [hn,hm]
    · simp [hs]
  | sample x => simp [gains,loses,heed]
  | report r => simp [gains,loses,heed]
  | devnull => simp [gains,loses,heed]

end Registry

namespace Core

variable {δ ρ : Type} [ContainerRuntime δ] [Backend ρ] {meterId : String}
  {k : Core δ (Tapped ρ)} {c : StateChange}

theorem handed_follow_ok (h : (k.sample c).1 = .ok ()) :
    (k.follow meterId c).2.backend.handed =
      k.backend.handed++[.ofChange meterId c k.clock] := by
  have hk := sample_keeps c k
  rcases hs : k.sample c with ⟨a,l⟩
  rw [hs] at h hk
  simp only at h
  subst h
  rw [follow_ok hs,← hk.clock,← hk.backend]
  rfl

theorem handed_follow_error {p : Passage} (h : (k.sample c).1 = .error p) :
    (k.follow meterId c).2.backend.handed = k.backend.handed := by
  have hk := sample_keeps c k
  rcases hs : k.sample c with ⟨a,l⟩
  rw [hs] at h hk
  simp only at h
  subst h
  rw [follow_error hs]
  exact congrArg Tapped.handed hk.backend

theorem handed_follow (meterId : String) (c : StateChange) (k : Core δ (Tapped ρ)) :
    ∃ rs,(k.follow meterId c).2.backend.handed = k.backend.handed++rs ∧
      ∀ r ∈ rs,r = .ofChange meterId c k.clock := by
  cases h : (k.sample c).1 with
  | ok u => exact ⟨_,handed_follow_ok h,by simp⟩
  | error p => exact ⟨[],by rw [handed_follow_error h,List.append_nil],by simp⟩

/-- As long as no loop has crashed, every stop is reported. -/
theorem handed_follow_stopped (hs : k.collector.Sound) (hu : k.collector.Unharmed)
    (hc : c.state = .stopped) :
    (k.follow meterId c).2.backend.handed =
      k.backend.handed++[.ofChange meterId c k.clock] := by
  apply handed_follow_ok
  rw [sample_stopped hc]
  exact halt_ok hs hu c.containerName

theorem handed_change_stopped (hs : k.collector.Sound) (hu : k.collector.Unharmed)
    (hc : c.state = .stopped) (hn : k.registry.isRegistered c.containerName = true) :
    (k.change meterId c).2.backend.handed =
      k.backend.handed++[.ofChange meterId (c.resolvedIn k.registry) k.clock] := by
  rw [change_stopped hn hc]
  exact handed_follow_stopped hs hu ((c.resolvedIn_state k.registry).trans hc)

theorem handed_change_quiet (meterId : String) (k : Core δ (Tapped ρ)) (hc : c.state ≠ .stopped) :
    ∃ rs,(k.change meterId c).2.backend.handed = k.backend.handed++rs ∧
      (∀ n,Report.stops n rs = 0) ∧ ∀ r ∈ rs,r.Settled := by
  cases hn : k.registry.isRegistered c.containerName with
  | false =>
    rw [change_untracked hn]
    exact ⟨[],by simp,fun n => rfl,by simp⟩
  | true =>
    cases hs : c.state with
    | stopped => exact absurd hs hc
    | unknown =>
      rw [change_unknown hn hs]
      obtain ⟨rs,he,hr⟩ := handed_follow meterId c k
      exact ⟨rs,he,Report.quiet_of_change hc hr⟩
    | running =>
      rw [change_running hn hs]
      rcases h : k.look c with ⟨a,l⟩
      have hl := Looked.of_eq h
      cases a with
      | error p =>
        have hb := hl.keeps.backend
        exact ⟨[],by simp [hb],fun n => rfl,by simp⟩
      | ok c' =>
        obtain ⟨rs,he,hr⟩ := handed_follow meterId c' l
        refine ⟨rs,?_,Report.quiet_of_change ?_ hr⟩
        · rw [← hl.keeps.backend]
          exact he
        · rw [hl.state]
          exact hc

/-- A send hands over as many stops of a name as the registry loses it, each with a descriptor. -/
theorem handed_send (meterId : String) (hk : k.registry.Keyed) (hs : k.collector.Sound)
    (hu : k.collector.Unharmed) {msg : Message} (hm : ∀ r,msg ≠ .report r) :
    ∃ rs,(k.send meterId msg).2.backend.handed = k.backend.handed++rs ∧
      (∀ n,Report.stops n rs = k.registry.loses n msg) ∧ ∀ r ∈ rs,r.Settled := by
  cases msg with
  | discovery info =>
    show ∃ rs,(k.discover meterId info).2.backend.handed = k.backend.handed++rs ∧ _
    by_cases h : (k.registry.register info).1 = .added
    · rw [discover_added h]
      obtain ⟨rs,he,hr⟩ := handed_follow meterId (.ofEvent (.existed info k.clock))
        { k with registry := (k.registry.register info).2 }
      exact ⟨rs,he,Report.quiet_of_change (by simp [StateChange.ofEvent,Event.existed,Event.about,
        State.ofEvent]) hr⟩
    · rw [discover_refused h]
      exact ⟨[],by simp,fun n => rfl,by simp⟩
  | change c =>
    show ∃ rs,(k.change meterId c).2.backend.handed = k.backend.handed++rs ∧ _
    by_cases hc : c.state = .stopped
    · cases hn : k.registry.isRegistered c.containerName with
      | false =>
        rw [change_untracked hn]
        refine ⟨[],by simp,?_,by simp⟩
        intro n
        have hl : ¬(c.state = .stopped ∧ c.containerName = n ∧ k.registry.isRegistered n = true) := by
          rintro ⟨-,rfl,hr⟩
          rw [hn] at hr
          cases hr
        simp only [Registry.loses,if_neg hl]
        rfl
      | true =>
        -- The stop that is reported has the registry's own descriptor, whose name is the key it had.
        refine ⟨_,handed_change_stopped hs hu hc hn,?_,?_⟩
        · intro n
          rw [Report.stops_ofChange,StateChange.resolvedIn_state,
            StateChange.resolvedIn_containerName hk]
          simp only [Registry.loses]
          refine if_congr ?_ rfl rfl
          constructor
          · rintro ⟨hc,rfl⟩
            exact ⟨hc,rfl,hn⟩
          · rintro ⟨hc,hm,-⟩
            exact ⟨hc,hm⟩
        · intro r hr c' hc' _
          rw [List.mem_singleton.mp hr] at hc'
          cases hc'
          exact StateChange.resolvedIn_isResolved hn
    · obtain ⟨rs,he,hq,hr⟩ := handed_change_quiet meterId k hc
      refine ⟨rs,he,?_,hr⟩
      intro n
      rw [hq n]
      simp [Registry.loses,hc]
  | sample x =>
    refine ⟨[.ofSample meterId x k.clock],rfl,fun n => rfl,?_⟩
    intro r hr c' hc' _
    rw [List.mem_singleton.mp hr] at hc'
    cases hc'
  | report r => exact absurd rfl (hm r)
  | devnull => exact ⟨[],(List.append_nil _).symm,fun n => rfl,by simp⟩

end Core

end HostMeter
