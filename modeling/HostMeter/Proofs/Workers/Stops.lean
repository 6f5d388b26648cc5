import HostMeter.Proofs.Chain.Handed
import HostMeter.Proofs.Workers.Flight
import HostMeter.Proofs.Workers.Stages
set_option autoImplicit false

/-! Several stops of one container at once. The filter that keeps the registry asks it call by call:
whether the container is registered, for its descriptor, and to drop it; what dropping it answers makes
no difference. So every stop that has found its container registered goes on to be reported, however
many there are. -/

namespace HostMeter

/-- Loops can wait and have not crashed. -/
structure Core.Sturdy {δ ρ : Type} (k : Core δ ρ) : Prop extends k.Orderly where
  canWait : k.collector.CanWait
  unharmed : k.collector.Unharmed

/-- How far a worker is with a stop. -/
inductive Stage
  | checking
  | resolving
  | dropping (c : StateChange)
  /-- Done with the registry. -/
  | flying (g : Flight)

structure Errand where
  change : StateChange
  stage : Stage := .checking

namespace Errand

/-- The container was found registered and has not been dropped by this worker yet. -/
def committed (e : Errand) : Bool :=
  match e.stage with
  | .resolving | .dropping _ => true
  | _ => false

def crossed (e : Errand) : Bool :=
  match e.stage with
  | .flying g => decide (2 ≤ g.passed)
  | _ => false

def airborne (e : Errand) : Bool :=
  match e.stage with
  | .flying g => g.fate.isNone
  | _ => false

def landed (e : Errand) : Bool :=
  match e.stage with
  | .flying g => g.fate.isSome
  | _ => false

def proceed (e : Errand) (stage : Stage) : Errand := { e with stage }

variable {δ ρ : Type} [ContainerRuntime δ] [Backend ρ]

/-- The next call of the registry, or the next filter behind it. -/
def step (meterId : String) (e : Errand) (k : Core δ ρ) : Errand × Core δ ρ :=
  match e.stage with
  | .checking =>
    if k.registry.isRegistered e.change.containerName then
      (e.proceed (if e.change.isResolved then .dropping e.change else .resolving),k)
    else (e.proceed (.flying ⟨.change e.change,1,some .stopped⟩),k)
  | .resolving => (e.proceed (.dropping (e.change.resolvedIn k.registry)),k)
  | .dropping c =>
    (e.proceed (.flying ⟨.change c,2,none⟩),
      { k with registry := (k.registry.drop e.change.containerName).2 })
  | .flying g =>
    match g.fate with
    | some _ => (e,k)
    | none =>
      (e.proceed (.flying (g.land (k.pass meterId g.passed g.message).1)),
        (k.pass meterId g.passed g.message).2)

variable {meterId : String} {e : Errand} {k : Core δ ρ} {c : StateChange} {g : Flight}

theorem step_unregistered (h : e.stage = .checking)
    (hn : k.registry.isRegistered e.change.containerName = false) :
    step meterId e k = (e.proceed (.flying ⟨.change e.change,1,some .stopped⟩),k) := by
  simp [step,h,hn]

theorem step_registered (h : e.stage = .checking)
    (hn : k.registry.isRegistered e.change.containerName = true) :
    step meterId e k =
      (e.proceed (if e.change.isResolved then .dropping e.change else .resolving),k) := by
  simp [step,h,hn]

theorem step_resolving (h : e.stage = .resolving) :
    step meterId e k = (e.proceed (.dropping (e.change.resolvedIn k.registry)),k) := by
  simp [step,h]

theorem step_dropping (h : e.stage = .dropping c) :
    step meterId e k = (e.proceed (.flying ⟨.change c,2,none⟩),
      { k with registry := (k.registry.drop e.change.containerName).2 }) := by
  simp [step,h]

theorem step_landed (h : e.stage = .flying g) (hf : g.fate ≠ none) :
    step meterId e k = (e,k) := by
  cases hg : g.fate with
  | none => exact absurd hg hf
  | some p => simp [step,h,hg]

theorem step_flying (h : e.stage = .flying g) (hf : g.fate = none) :
    step meterId e k = (e.proceed (.flying (g.land (k.pass meterId g.passed g.message).1)),
      (k.pass meterId g.passed g.message).2) := by
  simp [step,h,hf]

/-- With nobody in between, the calls come to what the filter does. -/
theorem alone_check (meterId : String) (hs : c.state = .stopped) (k : Core δ ρ) :
    ∃ j,Team.alone (step meterId) j ⟨c,.checking⟩ k =
      (⟨c,.flying (Flight.land ⟨.change c,1,none⟩ (k.check c).1)⟩,(k.check c).2) := by
  cases hn : k.registry.isRegistered c.containerName with
  | false =>
    have h1 : step meterId ⟨c,.checking⟩ k = _ := step_unregistered rfl hn
    rw [Core.check_untracked hn]
    exact ⟨1,Team.alone_step h1 0⟩
  | true =>
    have h1 : step meterId ⟨c,.checking⟩ k = _ := step_registered rfl hn
    rw [Core.check_stopped hn hs]
    cases hc : c.isResolved with
    | true =>
      rw [if_pos hc] at h1
      have h2 : step meterId ⟨c,.dropping c⟩ k = _ := step_dropping rfl
      rw [StateChange.resolvedIn_of_resolved hc]
      exact ⟨2,(Team.alone_step h1 1).trans (Team.alone_step h2 0)⟩
    | false =>
      rw [if_neg (by simp [hc])] at h1
      have h2 : step meterId ⟨c,.resolving⟩ k = _ := step_resolving rfl
      have h3 : step meterId ⟨c,.dropping (c.resolvedIn k.registry)⟩ k = _ := step_dropping rfl
      exact ⟨3,(Team.alone_step h1 2).trans ((Team.alone_step h2 1).trans (Team.alone_step h3 0))⟩

end Errand

/-- The message is a stop of the container, or a report that tells of one. -/
def Flight.Carries (n : String) (g : Flight) : Prop :=
  2 ≤ g.passed ∧ g.passed ≤ 5 ∧ g.message.halts n = true ∨
    g.passed = 6 ∧ ∃ r,g.message = .report r ∧ r.isStopOf n = true

namespace Core

variable {δ ρ : Type} [ContainerRuntime δ] [Backend ρ] {meterId n : String}

theorem pass_sturdy {k : Core δ ρ} (h : k.Sturdy) (i : Nat) (msg : Message) :
    (k.pass meterId i msg).2.Sturdy := by
  obtain ⟨hw,hu⟩ := pass_collector_keeps (k := k) (P := fun d => d.CanWait ∧ d.Unharmed)
    ⟨h.canWait,h.unharmed⟩ (fun name => (start_started name k).unharmed h.canWait h.unharmed)
    (fun c => sample_unharmed h.sound h.canWait h.unharmed c) i msg
  exact ⟨pass_orderly h.toOrderly i msg,hw,hu⟩

variable {k : Core δ (Tapped ρ)} {g : Flight}

/-- On its way to the backend a stop gets past every filter, as long as no loop has crashed. -/
theorem pass_carried (meterId : String) (h : k.Sturdy) (hg : g.Carries n) (hp : g.passed ≤ 5) :
    ∃ msg,(k.pass meterId g.passed g.message).1 = .ok msg ∧ (g.land (.ok msg)).Carries n ∧
      (k.pass meterId g.passed g.message).2.backend.handed = k.backend.handed := by
  rcases hg with ⟨hl,-,hm⟩ | ⟨h6,-⟩
  · obtain ⟨c,hc,hs,rfl⟩ := Message.halts_iff.mp hm
    rw [hc]
    have hcarry : ∀ msg : Message,msg.halts c.containerName = true → g.passed ≤ 4 →
        (g.land (.ok msg)).Carries c.containerName := by
      intro msg hmsg hu
      have hpassed : (g.land (.ok msg)).passed = g.passed+1 := rfl
      exact .inl ⟨by omega,by omega,hmsg⟩
    have hcases : g.passed = 2 ∨ g.passed = 3 ∨ g.passed = 4 ∨ g.passed = 5 := by omega
    rcases hcases with h2 | h3 | h4 | h5
    · have hname := StateChange.resolvedIn_containerName h.keyed c
      have hmsg : (Message.change (c.resolvedIn k.registry)).halts c.containerName = true :=
        Message.halts_iff.mpr ⟨_,rfl,(c.resolvedIn_state k.registry).trans hs,hname⟩
      rw [h2,pass_resolve,resolve_stopped hs]
      exact ⟨_,rfl,hcarry _ hmsg (by omega),rfl⟩
    · rw [h3]
      exact ⟨_,rfl,hcarry _ (hc ▸ hm) (by omega),rfl⟩
    · have hok := halt_ok h.sound h.unharmed c.containerName
      have hb := (halt_keeps c.containerName k).backend
      rw [h4,pass_sample,sample_stopped hs,hok,hb]
      exact ⟨_,rfl,hcarry _ (hc ▸ hm) (by omega),rfl⟩
    · have hstop : (Report.ofChange meterId c k.clock).isStopOf c.containerName = true := by
        rw [Report.isStopOf_ofChange]
        simp [hs]
      have hpassed : (g.land (.ok (.report (.ofChange meterId c k.clock)))).passed = 6 := by
        show g.passed+1 = 6
        omega
      rw [h5]
      exact ⟨_,rfl,.inr ⟨hpassed,_,rfl,hstop⟩,rfl⟩
  · omega

theorem pass_delivered (meterId : String) (hg : g.Carries n) (hp : g.passed = 6) :
    ∃ p r,(k.pass meterId g.passed g.message).1 = .error p ∧ r.isStopOf n = true ∧
      (k.pass meterId g.passed g.message).2.backend.handed = k.backend.handed++[r] := by
  rcases hg with ⟨-,hu,-⟩ | ⟨-,r,hm,hr⟩
  · omega
  · rw [hp,hm]
    exact ⟨_,r,rfl,hr,rfl⟩

end Core

namespace Errand

variable {δ ρ : Type} [ContainerRuntime δ] [Backend ρ] {meterId n : String} {e : Errand}
  {k : Core δ (Tapped ρ)}

structure Stops (n : String) (e : Errand) : Prop where
  state : e.change.state = .stopped
  name : e.change.containerName = n
  dropping : ∀ c,e.stage = .dropping c → c.state = .stopped ∧ c.containerName = n
  flying : ∀ g,e.stage = .flying g → g.fate = none → g.Carries n

/-- What a step does to a stop whose container has been dropped: what is committed crosses, what is on
its way is reported. -/
structure Goes (n : String) (e : Errand) (k : Core δ (Tapped ρ)) (e' : Errand)
    (k' : Core δ (Tapped ρ)) : Prop where
  stops : e'.Stops n
  sturdy : k'.Sturdy
  gone : k'.registry.isRegistered n = false
  crossing : (e'.committed || e'.crossed) = (e.committed || e.crossed)
  reports : ∃ rs,k'.backend.handed = k.backend.handed++rs ∧
    Report.stops n rs+(e'.committed || e'.airborne).toNat = (e.committed || e.airborne).toNat

omit [ContainerRuntime δ] [Backend ρ] in
theorem goes_on {e' : Errand} (hk : k.Sturdy) (hn : k.registry.isRegistered n = false)
    (hs : e'.Stops n) (hc : (e'.committed || e'.crossed) = (e.committed || e.crossed))
    (ha : (e'.committed || e'.airborne) = (e.committed || e.airborne)) : e.Goes n k e' k :=
  ⟨hs,hk,hn,hc,[],(List.append_nil _).symm,by rw [ha]; exact Nat.zero_add _⟩

theorem flying_goes (meterId : String) (he : e.Stops n) (hk : k.Sturdy)
    (hn : k.registry.isRegistered n = false) {g : Flight} (hst : e.stage = .flying g)
    (hf : g.fate = none) : e.Goes n k (step meterId e k).1 (step meterId e k).2 := by
  have hname := he.name
  have hg := he.flying g hst hf
  have hrange : 2 ≤ g.passed ∧ g.passed ≤ 6 := by
    rcases hg with ⟨hl,hu,-⟩ | ⟨h6,-⟩ <;> omega
  have hgone : (k.pass meterId g.passed g.message).2.registry.isRegistered n = false := by
    rw [Core.pass_registry (by omega)]
    exact hn
  have hcrossed : e.crossed = true := by simp [crossed,hst,hrange.1]
  have hairborne : e.airborne = true := by simp [airborne,hst,hf]
  rw [step_flying hst hf]
  by_cases hp : g.passed ≤ 5
  · obtain ⟨msg,ha,hcarry,hh⟩ := Core.pass_carried meterId hk hg hp
    have hfate : (g.land (.ok msg)).fate = none := hf
    have hpassed : (g.land (.ok msg)).passed = g.passed+1 := rfl
    rw [ha]
    refine ⟨⟨he.state,hname,?_,?_⟩,Core.pass_sturdy hk _ _,hgone,?_,[],?_,?_⟩
    · rintro c ⟨⟩
    · rintro g' ⟨⟩ -
      exact hcarry
    · rw [hcrossed]
      simp [proceed,committed,crossed,hpassed]
      omega
    · rw [hh,List.append_nil]
    · rw [hairborne]
      simp [proceed,committed,airborne,hfate,Report.stops]
  · obtain ⟨p,r,ha,hr,hh⟩ := Core.pass_delivered meterId (k := k) hg (by omega)
    rw [ha]
    refine ⟨⟨he.state,hname,?_,?_⟩,Core.pass_sturdy hk _ _,hgone,?_,[r],hh,?_⟩
    · rintro c ⟨⟩
    · rintro g' ⟨⟩ ⟨⟩
    · rw [hcrossed]
      simp [proceed,committed,crossed,Flight.land,hrange.1]
    · rw [hairborne]
      simp [proceed,committed,airborne,Flight.land,Report.stops,hr]

theorem step_goes (meterId : String) (he : e.Stops n) (hk : k.Sturdy)
    (hn : k.registry.isRegistered n = false) :
    e.Goes n k (step meterId e k).1 (step meterId e k).2 := by
  have hname := he.name
  cases hst : e.stage with
  | checking =>
    rw [step_unregistered hst (by rw [hname]; exact hn)]
    refine goes_on hk hn ⟨he.state,hname,?_,?_⟩ ?_ ?_
    · rintro c ⟨⟩
    · rintro g ⟨⟩ ⟨⟩
    · simp [proceed,committed,crossed,hst]
    · simp [proceed,committed,airborne,hst]
  | resolving =>
    rw [step_resolving hst]
    refine goes_on hk hn ⟨he.state,hname,?_,?_⟩ ?_ ?_
    · rintro c ⟨⟩
      refine ⟨(e.change.resolvedIn_state k.registry).trans he.state,?_⟩
      exact (StateChange.resolvedIn_containerName hk.keyed e.change).trans hname
    · rintro g ⟨⟩
    · simp [proceed,committed,hst]
    · simp [proceed,committed,hst]
  | dropping c =>
    have hdrop := Registry.drop_of_not_isRegistered hn
    obtain ⟨hs,hc⟩ := he.dropping c hst
    rw [step_dropping hst,hname,hdrop]
    refine goes_on hk hn ⟨he.state,hname,?_,?_⟩ ?_ ?_
    · rintro c ⟨⟩
    · rintro g ⟨⟩ -
      exact .inl ⟨Nat.le_refl 2,Nat.le_add_left 2 3,Message.halts_iff.mpr ⟨c,rfl,hs,hc⟩⟩
    · simp [proceed,committed,crossed,hst]
    · simp [proceed,committed,airborne,hst]
  | flying g =>
    by_cases hf : g.fate = none
    · exact flying_goes meterId he hk hn hst hf
    · rw [step_landed hst hf]
      exact goes_on hk hn he rfl rfl

end Errand

abbrev Crowd (δ ρ : Type) := Team Errand (Core δ ρ)

namespace Crowd

variable {δ ρ : Type} [ContainerRuntime δ] [Backend ρ]

def ofChanges (cs : List StateChange) (k : Core δ ρ) : Crowd δ ρ := ⟨k,cs.map fun c => ⟨c,.checking⟩⟩

def run (meterId : String) (is : List Nat) (t : Crowd δ ρ) : Crowd δ ρ :=
  is.foldl (fun t i => t.step (Errand.step meterId) i) t

def committed (t : Crowd δ ρ) : Nat := t.members.countP (·.committed)

def crossed (t : Crowd δ ρ) : Nat := t.members.countP (·.crossed)

def Drops (i : Nat) (t : Crowd δ ρ) : Prop := ∃ e c,t.members[i]? = some e ∧ e.stage = .dropping c

variable {meterId n : String} {k : Core δ (Tapped ρ)} {t : Crowd δ (Tapped ρ)} {i K : Nat}

/-- Nobody has had the container dropped yet. -/
structure Held (n : String) (k : Core δ (Tapped ρ)) (t : Crowd δ (Tapped ρ)) : Prop where
  core : t.state = k
  stops : ∀ e ∈ t.members,e.Stops n
  grounded : ∀ e ∈ t.members,∀ g,e.stage ≠ .flying g

/-- Somebody has, when so many workers had found it registered. -/
structure Dropped (n : String) (k : Core δ (Tapped ρ)) (K : Nat) (t : Crowd δ (Tapped ρ)) : Prop where
  sturdy : t.state.Sturdy
  gone : t.state.registry.isRegistered n = false
  stops : ∀ e ∈ t.members,e.Stops n
  crossing : t.members.countP (fun e => e.committed || e.crossed) = K
  reports : ∃ rs,t.state.backend.handed = k.backend.handed++rs ∧
    Report.stops n rs+t.members.countP (fun e => e.committed || e.airborne) = K

omit [ContainerRuntime δ] [Backend ρ] in
theorem held_ofChanges {cs : List StateChange}
    (hs : ∀ c ∈ cs,c.state = .stopped ∧ c.containerName = n) (k : Core δ (Tapped ρ)) :
    (ofChanges cs k).Held n k where
  core := rfl
  stops := by
    intro e he
    obtain ⟨c,hc,rfl⟩ := List.mem_map.mp he
    obtain ⟨hstate,hname⟩ := hs c hc
    refine ⟨hstate,hname,?_,?_⟩
    · rintro d ⟨⟩
    · rintro g ⟨⟩
  grounded := by
    intro e he g hg
    obtain ⟨c,-,rfl⟩ := List.mem_map.mp he
    cases hg

omit [ContainerRuntime δ] [Backend ρ] in
theorem Held.proceed {e : Errand} {stage : Stage} (h : t.Held n k) (hi : t.members[i]? = some e)
    (hdrop : ∀ c,stage = .dropping c → c.state = .stopped ∧ c.containerName = n)
    (hfly : ∀ g,stage ≠ .flying g) : Held n k ⟨k,t.members.set i (e.proceed stage)⟩ where
  core := rfl
  stops := by
    intro x hx
    rcases List.mem_or_eq_of_mem_set hx with hx | rfl
    · exact h.stops x hx
    · have he := h.stops e (List.mem_of_getElem? hi)
      exact ⟨he.state,he.name,hdrop,fun g hg _ => absurd hg (hfly g)⟩
  grounded := by
    intro x hx
    rcases List.mem_or_eq_of_mem_set hx with hx | rfl
    · exact h.grounded x hx
    · exact hfly

theorem held_step (hk : k.registry.Keyed) (hn : k.registry.isRegistered n = true) (h : t.Held n k)
    (hd : ¬t.Drops i) : Held n k (t.step (Errand.step meterId) i) := by
  cases hi : t.members[i]? with
  | none =>
    rw [Team.step_none hi]
    exact h
  | some e =>
    have he := h.stops e (List.mem_of_getElem? hi)
    have hname := he.name
    rw [Team.step_some hi,h.core]
    cases hst : e.stage with
    | checking =>
      rw [Errand.step_registered hst (by rw [hname]; exact hn)]
      split
      · refine h.proceed hi ?_ (by simp)
        rintro c ⟨⟩
        exact ⟨he.state,hname⟩
      · exact h.proceed hi (by simp) (by simp)
    | resolving =>
      rw [Errand.step_resolving hst]
      refine h.proceed hi ?_ (by simp)
      rintro c ⟨⟩
      refine ⟨(e.change.resolvedIn_state k.registry).trans he.state,?_⟩
      exact (StateChange.resolvedIn_containerName hk e.change).trans hname
    | dropping c => exact absurd ⟨e,c,hi,hst⟩ hd
    | flying g => exact absurd hst (h.grounded e (List.mem_of_getElem? hi) g)

theorem held_drop (hk : k.Sturdy) (h : t.Held n k) (hd : t.Drops i) :
    Dropped n k t.committed (t.step (Errand.step meterId) i) := by
  obtain ⟨e,c,hi,hst⟩ := hd
  have he := h.stops e (List.mem_of_getElem? hi)
  obtain ⟨hs,hc⟩ := he.dropping c hst
  have hcommitted : e.committed = true := by simp [Errand.committed,hst]
  -- Nobody flies, so that what is committed is all that counts.
  have hcount : ∀ p : Errand → Bool,(∀ x ∈ t.members,p x = x.committed) →
      p (e.proceed (.flying ⟨.change c,2,none⟩)) = true →
      (t.members.set i (e.proceed (.flying ⟨.change c,2,none⟩))).countP p = t.committed := by
    intro p hp hnew
    have hset := Team.countP_set_add p hi (e.proceed (.flying ⟨.change c,2,none⟩))
    have hsame : t.members.countP p = t.committed := by
      refine List.countP_congr fun x hx => ?_
      rw [hp x hx]
    rw [hp e (List.mem_of_getElem? hi),hcommitted,hnew,hsame] at hset
    omega
  have hground : ∀ x ∈ t.members,x.crossed = false ∧ x.airborne = false := by
    intro x hx
    have hg := h.grounded x hx
    cases hx' : x.stage with
    | flying g => exact absurd hx' (hg g)
    | _ => simp [Errand.crossed,Errand.airborne,hx']
  rw [Team.step_some hi,h.core,Errand.step_dropping hst,he.name]
  refine ⟨⟨⟨hk.keyed.drop n,hk.sound⟩,hk.canWait,hk.unharmed⟩,?_,?_,?_,[],(List.append_nil _).symm,?_⟩
  · simp [Registry.isRegistered_drop]
  · intro x hx
    rcases List.mem_or_eq_of_mem_set hx with hx | rfl
    · exact h.stops x hx
    · refine ⟨he.state,he.name,?_,?_⟩
      · rintro d ⟨⟩
      · rintro g ⟨⟩ -
        exact .inl ⟨Nat.le_refl 2,Nat.le_add_left 2 3,Message.halts_iff.mpr ⟨c,rfl,hs,hc⟩⟩
  · refine hcount _ (fun x hx => ?_) rfl
    rw [(hground x hx).1,Bool.or_false]
  · have hpend := hcount (fun x => x.committed || x.airborne) (fun x hx => by
      rw [(hground x hx).2,Bool.or_false]) rfl
    rw [hpend]
    exact Nat.zero_add _

theorem dropped_step (meterId : String) (h : t.Dropped n k K) (i : Nat) :
    Dropped n k K (t.step (Errand.step meterId) i) := by
  cases hi : t.members[i]? with
  | none =>
    rw [Team.step_none hi]
    exact h
  | some e =>
    have he := h.stops e (List.mem_of_getElem? hi)
    obtain ⟨hs,hk,hn,hc,rs,hh,hr⟩ := Errand.step_goes meterId he h.sturdy h.gone
    obtain ⟨ss,hh',hr'⟩ := h.reports
    have hcross := Team.countP_set_add (fun e => e.committed || e.crossed) hi (e.step meterId t.state).1
    have hpend := Team.countP_set_add (fun e => e.committed || e.airborne) hi (e.step meterId t.state).1
    rw [Team.step_some hi]
    refine ⟨hk,hn,?_,?_,ss++rs,?_,?_⟩
    · intro x hx
      rcases List.mem_or_eq_of_mem_set hx with hx | rfl
      · exact h.stops x hx
      · exact hs
    · have hold := h.crossing
      show (t.members.set i (e.step meterId t.state).1).countP _ = K
      rw [hc] at hcross
      omega
    · rw [hh,hh',List.append_assoc]
    · show Report.stops n (ss++rs)+(t.members.set i (e.step meterId t.state).1).countP _ = K
      rw [Report.stops_append]
      omega

theorem run_cons (i : Nat) (is : List Nat) (t : Crowd δ (Tapped ρ)) :
    run meterId (i :: is) t = run meterId is (t.step (Errand.step meterId) i) := rfl

theorem dropped_run (is : List Nat) (h : t.Dropped n k K) : (run meterId is t).Dropped n k K := by
  induction is generalizing t with
  | nil => exact h
  | cons i is ih => exact ih (dropped_step meterId h i)

/-- The container is held until one of the workers has it dropped. -/
theorem held_run (hk : k.Sturdy) (hn : k.registry.isRegistered n = true) (is : List Nat)
    (h : t.Held n k) :
    (run meterId is t).Held n k ∨
      ∃ us i vs,is = us++i :: vs ∧ (run meterId us t).Held n k ∧ (run meterId us t).Drops i ∧
        (run meterId is t).Dropped n k (run meterId us t).committed := by
  induction is generalizing t with
  | nil => exact .inl h
  | cons i is ih =>
    by_cases hd : t.Drops i
    · exact .inr ⟨[],i,is,rfl,h,hd,dropped_run is (held_drop hk h hd)⟩
    · rcases ih (held_step hk.keyed hn h hd) with h | ⟨us,j,vs,he,hh,hj,hdr⟩
      · exact .inl h
      · exact .inr ⟨i :: us,j,vs,by rw [he]; rfl,hh,hj,hdr⟩

theorem length_run (is : List Nat) (t : Crowd δ (Tapped ρ)) :
    (run meterId is t).members.length = t.members.length := by
  induction is generalizing t with
  | nil => rfl
  | cons i is ih => exact (ih (t.step (Errand.step meterId) i)).trans (Team.length_step _ i t)

omit [ContainerRuntime δ] [Backend ρ] in
theorem committed_pos (h : t.Drops i) : 1 ≤ t.committed := by
  obtain ⟨e,c,hi,hst⟩ := h
  have he : e.committed = true := by simp [Errand.committed,hst]
  exact List.countP_pos_iff.mpr ⟨e,List.mem_of_getElem? hi,he⟩

/-- Stops of one registered container are taken past the registry in any order of their calls. Once all
are over, as many have got past it and are reported as had found the container registered when the first
of them had it dropped: one at least, and no more than one when nobody else was between its two calls. -/
theorem stops_crossing (meterId : String) (hk : k.Sturdy) {cs : List StateChange} (hne : cs ≠ [])
    (hs : ∀ c ∈ cs,c.state = .stopped ∧ c.containerName = n)
    (hn : k.registry.isRegistered n = true) {is : List Nat}
    (hdone : ∀ e ∈ (run meterId is (ofChanges cs k)).members,e.landed = true) :
    ∃ us i vs,is = us++i :: vs ∧
      (run meterId us (ofChanges cs k)).state.registry.isRegistered n = true ∧
      (run meterId us (ofChanges cs k)).Drops i ∧
      1 ≤ (run meterId us (ofChanges cs k)).committed ∧
      (run meterId is (ofChanges cs k)).state.registry.isRegistered n = false ∧
      (run meterId is (ofChanges cs k)).crossed = (run meterId us (ofChanges cs k)).committed ∧
      ∃ rs,(run meterId is (ofChanges cs k)).state.backend.handed = k.backend.handed++rs ∧
        Report.stops n rs = (run meterId us (ofChanges cs k)).committed := by
  have hover : ∀ e ∈ (run meterId is (ofChanges cs k)).members,
      e.committed = false ∧ e.airborne = false := by
    intro e he
    have ho := hdone e he
    cases hst : e.stage with
    | flying g =>
      have hf : g.fate.isSome = true := by simpa [Errand.landed,hst] using ho
      simp [Errand.committed,Errand.airborne,hst,hf]
    | _ => simp [Errand.landed,hst] at ho
  rcases held_run hk hn is (held_ofChanges hs k) with h | ⟨us,i,vs,he,hh,hd,h⟩
  · -- Somebody is over, and has crossed or found the container gone.
    have hlen : 0 < (run meterId is (ofChanges cs k)).members.length := by
      rw [length_run]
      simpa [ofChanges,List.length_pos_iff] using hne
    obtain ⟨e,he⟩ := List.exists_mem_of_length_pos hlen
    have ho := hdone e he
    cases hst : e.stage with
    | flying g => exact absurd hst (h.grounded e he g)
    | _ => simp [Errand.landed,hst] at ho
  · obtain ⟨rs,hrs,hstops⟩ := h.reports
    have hcross : (run meterId is (ofChanges cs k)).crossed =
        (run meterId us (ofChanges cs k)).committed := by
      rw [← h.crossing]
      refine List.countP_congr fun e he => ?_
      rw [(hover e he).1,Bool.false_or]
    have hpend : (run meterId is (ofChanges cs k)).members.countP
        (fun e => e.committed || e.airborne) = 0 := by
      rw [List.countP_eq_zero]
      intro e he
      obtain ⟨hc,ha⟩ := hover e he
      simp [hc,ha]
    have hreg : (run meterId us (ofChanges cs k)).state.registry.isRegistered n = true := by
      rw [hh.core]
      exact hn
    exact ⟨us,i,vs,he,hreg,hd,committed_pos hd,h.gone,hcross,rs,hrs,by omega⟩

def tracked : Core (Tallied Fleet) (Tapped Inbox) :=
  (Watched.run Watched.chain [.send (.discovery Watched.web)] Watched.small).core

theorem tracked_sturdy : tracked.Sturdy where
  toOrderly := Act.take_orderly Watched.small_blank.orderly Watched.chain (.send _)
  canWait := by decide
  unharmed := by decide

def death : List StateChange :=
  [.ofEvent { Watched.webDeleted with type := .oomKill },.ofEvent Watched.webDeleted]

def together : List Nat := [0,1]++List.replicate 7 0++List.replicate 7 1

/-- One registration ends in two stops. -/
theorem stops_crossing_together :
    (run "meter" together (ofChanges death tracked)).crossed = 2 ∧
      ∃ rs,(run "meter" together (ofChanges death tracked)).state.backend.handed =
          tracked.backend.handed++rs ∧ Report.stops "web" rs = 2 := by
  have hs : ∀ c ∈ death,c.state = .stopped ∧ c.containerName = "web" := by decide
  have hn : tracked.registry.isRegistered "web" = true := by decide
  have hdone : ∀ e ∈ (run "meter" together (ofChanges death tracked)).members,e.landed = true := by
    decide
  have htwo : (run "meter" together (ofChanges death tracked)).crossed = 2 := by decide
  obtain ⟨us,i,vs,-,-,-,-,-,hcross,rs,hh,hr⟩ :=
    stops_crossing "meter" tracked_sturdy (by decide) hs hn hdone
  exact ⟨htwo,rs,hh,by rw [hr,← hcross,htwo]⟩

end Crowd

end HostMeter
