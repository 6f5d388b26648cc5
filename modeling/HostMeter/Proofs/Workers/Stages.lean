import HostMeter.Proofs.Chain.Tracked
set_option autoImplicit false

/-! What single filters do to the parts of a core. Behind the registry a message starts or stops the
sampling of the same container until the collector has seen it. -/

namespace HostMeter

namespace Message

/-- The collector starts to sample the container over such a message. -/
def starts (n : String) : Message → Bool
  | .discovery c => decide (c.name = n)
  | .change c => decide (c.state = .running ∧ c.containerName = n)
  | _ => false

/-- The collector stops to sample the container over such a message. -/
def halts (n : String) : Message → Bool
  | .change c => decide (c.state = .stopped ∧ c.containerName = n)
  | _ => false

theorem halts_iff {n : String} {msg : Message} :
    msg.halts n = true ↔ ∃ c,msg = .change c ∧ c.state = .stopped ∧ c.containerName = n := by
  cases msg <;> simp [halts]

end Message

theorem Registry.isRegistered_heed_of_not_halts {r : Registry} {n : String} {msg : Message}
    (hn : r.isRegistered n = true) (h : msg.halts n = false) : (r.heed msg).isRegistered n = true := by
  cases msg with
  | discovery c =>
    show (r.register c).2.isRegistered n = true
    rw [isRegistered_register,hn,Bool.or_true]
  | change c =>
    by_cases hs : c.state = .stopped
    · have hc : n ≠ c.containerName := by
        rintro rfl
        simp [Message.halts,hs] at h
      simp [heed,hs,isRegistered_drop,hc,hn]
    · simpa [heed,hs] using hn
  | sample x => exact hn
  | report x => exact hn
  | devnull => exact hn

namespace Core

variable {δ ρ : Type} [ContainerRuntime δ] {k l : Core δ ρ} {meterId n : String} {i : Nat}
  {msg msg' : Message} {c : StateChange}

theorem resolve_keeps (c : StateChange) (k : Core δ ρ) :
    k.Keeps (k.resolve c).2 ∧ (k.resolve c).2.collector = k.collector := by
  cases hs : c.state with
  | running =>
    rw [resolve_running hs]
    exact ⟨(look_looked c k).keeps,(look_looked c k).collector⟩
  | stopped =>
    rw [resolve_stopped hs]
    exact ⟨.refl k,rfl⟩
  | unknown =>
    rw [resolve_unknown hs]
    exact ⟨.refl k,rfl⟩

theorem resolve_valid [FaithfulRuntime δ] (hv : FaithfulRuntime.Valid k.runtime) (c : StateChange) :
    FaithfulRuntime.Valid (k.resolve c).2.runtime := by
  cases hs : c.state with
  | running =>
    rw [resolve_running hs]
    exact (look_looked c k).valid hv
  | stopped =>
    rw [resolve_stopped hs]
    exact hv
  | unknown =>
    rw [resolve_unknown hs]
    exact hv

/-- A change that is resolved is one to the same state of the same container. -/
theorem resolve_ok [FaithfulRuntime δ] (hv : FaithfulRuntime.Valid k.runtime) (hk : k.registry.Keyed)
    (h : k.resolve c = (.ok msg,l)) :
    ∃ c',msg = .change c' ∧ c'.state = c.state ∧ c'.containerName = c.containerName := by
  cases hs : c.state with
  | running =>
    rw [resolve_running hs] at h
    rcases ho : k.look c with ⟨a,l'⟩
    have hl := Looked.of_eq ho
    rw [ho] at h
    cases a with
    | error p => cases h
    | ok c' =>
      cases h
      exact ⟨c',rfl,hl.state.trans hs,hl.containerName hv⟩
  | stopped =>
    rw [resolve_stopped hs] at h
    cases h
    exact ⟨_,rfl,(c.resolvedIn_state k.registry).trans hs,StateChange.resolvedIn_containerName hk c⟩
  | unknown =>
    rw [resolve_unknown hs] at h
    cases h
    exact ⟨c,rfl,hs,rfl⟩

variable [Backend ρ]

theorem pass_heed (meterId : String) (msg : Message) (k : Core δ ρ) :
    (k.pass meterId 1 msg).2.registry = k.registry.heed msg := by
  cases msg with
  | discovery info =>
    rw [pass_discovery]
    by_cases h : (k.registry.register info).1 = .added
    · rw [enter_added h]
      rfl
    · rw [enter_refused h]
      exact (Registry.register_snd_of_ne h).symm
  | change c =>
    rw [pass_change]
    cases hn : k.registry.isRegistered c.containerName with
    | false =>
      rw [check_untracked hn]
      simp only [Registry.heed,Registry.drop_of_not_isRegistered hn,ite_self]
    | true =>
      by_cases hs : c.state = .stopped
      · rw [check_stopped hn hs]
        simp only [Registry.heed,hs,if_true]
      · rw [check_tracked hn hs]
        simp only [Registry.heed,hs,if_false]
  | sample x => rfl
  | report r => rfl
  | devnull => rfl

theorem pass_registry (hi : i ≠ 1) (msg : Message) (k : Core δ ρ) :
    (k.pass meterId i msg).2.registry = k.registry := by
  unfold pass
  split
  · exact absurd rfl hi
  · exact absurd rfl hi
  · exact (resolve_keeps _ k).1.registry
  · exact (start_started _ k).keeps.registry
  · exact (sample_keeps _ k).registry
  all_goals rfl

theorem pass_collector (hi : i ≠ 4) (msg : Message) (k : Core δ ρ) :
    (k.pass meterId i msg).2.collector = k.collector := by
  unfold pass
  split
  · unfold enter
    split <;> rfl
  · unfold check
    split
    · split <;> rfl
    · rfl
  · exact (resolve_keeps _ k).2
  · exact absurd rfl hi
  · exact absurd rfl hi
  all_goals rfl

theorem pass_collector_keeps {P : Collector → Prop} (h : P k.collector)
    (hstart : ∀ name,P (k.start name).2.collector) (hsample : ∀ c,P (k.sample c).2.collector)
    (i : Nat) (msg : Message) : P (k.pass meterId i msg).2.collector := by
  by_cases hi : i = 4
  · subst hi
    cases msg with
    | discovery info => exact hstart info.name
    | change c => exact hsample c
    | sample x => exact h
    | report r => exact h
    | devnull => exact h
  · rw [pass_collector hi]
    exact h

theorem pass_orderly (h : k.Orderly) (i : Nat) (msg : Message) :
    (k.pass meterId i msg).2.Orderly where
  keyed := by
    by_cases hi : i = 1
    · subst hi
      rw [pass_heed]
      exact h.keyed.heed msg
    · rw [pass_registry hi]
      exact h.keyed
  sound := pass_collector_keeps (P := fun d => d.Sound) h.sound
    (fun name => (start_started name k).sound h.sound) (fun c => sample_sound h.sound c) i msg

variable [FaithfulRuntime δ]

theorem pass_valid (h : FaithfulRuntime.Valid k.runtime) (i : Nat) (msg : Message) :
    FaithfulRuntime.Valid (k.pass meterId i msg).2.runtime := by
  unfold pass
  split
  · unfold enter
    split <;> exact h
  · unfold check
    split
    · split <;> exact h
    · exact h
  · exact resolve_valid h _
  · exact (start_started _ k).valid h
  · exact sample_valid h _
  all_goals exact h

omit [FaithfulRuntime δ] in
theorem pass_starts (h : k.pass meterId 1 msg = (.ok msg',l)) (hm : msg'.starts n = true) :
    l.registry.isRegistered n = true := by
  cases msg with
  | discovery info =>
    rw [pass_discovery] at h
    by_cases ha : (k.registry.register info).1 = .added
    · rw [enter_added ha] at h
      cases h
      have hn : info.name = n := by
        simp only [Message.starts,decide_eq_true_eq] at hm
        exact hm.2
      show (k.registry.register info).2.isRegistered n = true
      rw [Registry.isRegistered_register]
      simp [ha,hn]
    · rw [enter_refused ha] at h
      cases h
  | change c =>
    rw [pass_change] at h
    cases hn : k.registry.isRegistered c.containerName with
    | false =>
      rw [check_untracked hn] at h
      cases h
    | true =>
      by_cases hs : c.state = .stopped
      · rw [check_stopped hn hs] at h
        cases h
        simp [Message.starts,StateChange.resolvedIn_state,hs] at hm
      · rw [check_tracked hn hs] at h
        cases h
        simp only [Message.starts,decide_eq_true_eq] at hm
        rw [← hm.2]
        exact hn
  | sample x =>
    cases h
    cases hm
  | report r =>
    cases h
    cases hm
  | devnull =>
    cases h
    cases hm

omit [FaithfulRuntime δ] in
theorem pass_halts (meterId : String) (hk : k.registry.Keyed) (hn : k.registry.isRegistered n = true)
    (hm : msg.halts n = true) :
    ∃ msg',(k.pass meterId 1 msg).1 = .ok msg' ∧ msg'.halts n = true := by
  obtain ⟨c,rfl,hs,rfl⟩ := Message.halts_iff.mp hm
  rw [pass_change,check_stopped hn hs]
  refine ⟨_,rfl,?_⟩
  simp [Message.halts,StateChange.resolvedIn_state,StateChange.resolvedIn_containerName hk,hs]

/-- Up to the collector a message keeps what it is about. -/
theorem pass_role (hv : FaithfulRuntime.Valid k.runtime) (hk : k.registry.Keyed)
    (hi : i = 2 ∨ i = 3) (h : k.pass meterId i msg = (.ok msg',l)) (n : String) :
    msg'.starts n = msg.starts n ∧ msg'.halts n = msg.halts n := by
  rcases hi with rfl | rfl
  · cases msg with
    | change c =>
      obtain ⟨c',rfl,hs,hc⟩ := resolve_ok hv hk h
      simp only [Message.starts,Message.halts,hs,hc,and_self]
    | discovery info =>
      cases h
      exact ⟨rfl,rfl⟩
    | sample x =>
      cases h
      exact ⟨rfl,rfl⟩
    | report r =>
      cases h
      exact ⟨rfl,rfl⟩
    | devnull =>
      cases h
      exact ⟨rfl,rfl⟩
  · cases h
    exact ⟨rfl,rfl⟩

omit [FaithfulRuntime δ] in
theorem pass_halts_on (meterId : String) (k : Core δ ρ) (hi : i = 2 ∨ i = 3)
    (hm : msg.halts n = true) : ∃ msg',(k.pass meterId i msg).1 = .ok msg' := by
  rcases hi with rfl | rfl
  · obtain ⟨c,rfl,hs,-⟩ := Message.halts_iff.mp hm
    rw [pass_resolve,resolve_stopped hs]
    exact ⟨_,rfl⟩
  · exact ⟨msg,rfl⟩

theorem pass_collecting (hv : FaithfulRuntime.Valid k.runtime) (hs : k.collector.Sound)
    (h : (k.pass meterId 4 msg).2.collector.isCollecting n = true) :
    (k.collector.isCollecting n = true ∨ msg.starts n = true) ∧ msg.halts n = false := by
  cases msg with
  | discovery info =>
    refine ⟨?_,rfl⟩
    rcases collecting_of_start hv h with hc | rfl
    · exact .inl hc
    · exact .inr (by simp [Message.starts])
  | change c =>
    rw [pass_sample] at h
    cases hst : c.state with
    | running =>
      rw [sample_running hst] at h
      refine ⟨?_,by simp [Message.halts,hst]⟩
      rcases collecting_of_start hv h with hc | rfl
      · exact .inl hc
      · exact .inr (by simp [Message.starts,hst])
    | stopped =>
      rw [sample_stopped hst] at h
      have hc : (decide (n ≠ c.containerName) && k.collector.isCollecting n) = true := by
        rw [← isCollecting_halt hs]
        exact h
      rw [Bool.and_eq_true,decide_eq_true_eq] at hc
      exact ⟨.inl hc.2,by simp [Message.halts,hst,hc.1.symm]⟩
    | unknown =>
      rw [sample_unknown hst] at h
      exact ⟨.inl h,by simp [Message.halts,hst]⟩
  | sample x => exact ⟨.inl h,rfl⟩
  | report r => exact ⟨.inl h,rfl⟩
  | devnull => exact ⟨.inl h,rfl⟩

end Core

end HostMeter
