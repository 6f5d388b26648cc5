import HostMeter.Proofs.Workers.Openings
set_option autoImplicit false

/-! Discoveries of one container that are sent together. The first to reach the registry with a descriptor
that can be tracked has it registered and goes on as a change to running; all others end there. What
becomes of it behind the registry makes no difference. -/

namespace HostMeter

def Message.discovers (n : String) : Message → Bool
  | .discovery c => decide (c.name = n)
  | _ => false

/-- How many of some messages announce a container otherwise than by a discovery of it. -/
def Message.others (n : String) (ms : List Message) : Nat :=
  ms.countP fun msg => msg.announces n && !msg.discovers n

/-- Among some messages, a discovery of a container of that name is at that place. -/
def Racer (n : String) (ms : List Message) (i : Nat) (c : Container) : Prop :=
  ms[i]? = some (.discovery c) ∧ c.name = n

theorem Racer.of_discovers {n : String} {ms : List Message} {i : Nat} {msg : Message}
    (h : ms[i]? = some msg) (hd : msg.discovers n = true) : ∃ c,msg = .discovery c ∧ Racer n ms i c := by
  cases msg with
  | discovery c => exact ⟨c,rfl,h,by simpa [Message.discovers] using hd⟩
  | change c => cases hd
  | sample x => cases hd
  | report r => cases hd
  | devnull => cases hd

theorem Registry.get?_heed_other {r : Registry} {n : String} {msg : Message}
    (hh : msg.halts n = false) (hd : msg.discovers n = false) : (r.heed msg).get? n = r.get? n := by
  cases msg with
  | discovery c =>
    have hn : n ≠ c.name := by
      rintro rfl
      simp [Message.discovers] at hd
    show (r.register c).2.get? n = _
    rw [get?_register,if_neg fun h => hn h.2]
  | change c =>
    by_cases hs : c.state = .stopped
    · have hn : n ≠ c.containerName := by
        rintro rfl
        simp [Message.halts,hs] at hh
      simp [heed,hs,hn]
    · simp [heed,hs]
  | sample x => rfl
  | report r => rfl
  | devnull => rfl

theorem Core.pass_policy {δ ρ : Type} [ContainerRuntime δ] [Backend ρ] (meterId : String) (i : Nat)
    (msg : Message) (k : Core δ ρ) :
    (k.pass meterId i msg).2.registry.policy = k.registry.policy := by
  by_cases hi : i = 1
  · subst hi
    rw [pass_heed]
    exact k.registry.policy_heed msg
  · rw [pass_registry hi]

namespace Flight

/-- A discovery has gone on as a change to running, or as the report of that change. -/
inductive Follows (meterId : String) (c : Container) : Flight → Prop
  | change (now : Timestamp) (passed : Nat) (fate : Option Passage) (hl : 2 ≤ passed)
    (hu : passed ≤ 5) : Follows meterId c ⟨.change (.ofEvent (.existed c now)),passed,fate⟩
  | report (now now' : Timestamp) (fate : Option Passage) :
    Follows meterId c ⟨.report (.ofChange meterId (.ofEvent (.existed c now)) now'),6,fate⟩

inductive Discovers (meterId : String) (c : Container) : Flight → Prop
  | waiting (passed : Nat) (hu : passed ≤ 1) : Discovers meterId c ⟨.discovery c,passed,none⟩
  | refused : Discovers meterId c ⟨.discovery c,1,some .stopped⟩
  | follows {g : Flight} (h : g.Follows meterId c) : Discovers meterId c g

variable {δ ρ : Type} [ContainerRuntime δ] [Backend ρ] {s : ChainSettings} {m : Meter δ ρ}
  {meterId : String} {c : Container} {g : Flight}

theorem Follows.passed_bounds (h : g.Follows meterId c) : 2 ≤ g.passed ∧ g.passed ≤ 6 := by
  cases h with
  | change now passed fate hl hu => exact ⟨hl,Nat.le_succ_of_le hu⟩
  | report now now' fate => exact ⟨Nat.le_add_left 2 4,Nat.le_refl 6⟩

theorem Follows.pass (h : g.Follows meterId c) (k : Core δ ρ) :
    (g.land (k.pass meterId g.passed g.message).1).Follows meterId c := by
  cases h with
  | report now now' fate => exact .report now now' _
  | change now passed fate hl hu =>
    have hp : passed = 2 ∨ passed = 3 ∨ passed = 4 ∨ passed = 5 := by omega
    rcases hp with rfl | rfl | rfl | rfl
    · have hr : k.resolve (.ofEvent (.existed c now)) = _ := Core.resolve_resolved rfl
      simp only [Core.pass_resolve,hr]
      exact .change now 3 _ (by decide) (by decide)
    · exact .change now 4 _ (by decide) (by decide)
    · simp only [Core.pass_sample]
      cases (k.sample (.ofEvent (.existed c now))).1 with
      | ok u => exact .change now 5 _ (by decide) (by decide)
      | error p => exact .change now 4 _ (by decide) (by decide)
    · exact .report now k.clock _

theorem Discovers.passed_le (h : g.Discovers meterId c) : g.passed ≤ 6 := by
  cases h with
  | waiting passed hu => exact Nat.le_trans hu (by decide)
  | refused => exact Nat.le_add_left 1 5
  | follows h => exact h.passed_bounds.2

theorem Discovers.pass (h : g.Discovers meterId c) (hf : g.fate = none) (k : Core δ ρ) :
    (g.land (k.pass meterId g.passed g.message).1).Discovers meterId c := by
  cases h with
  | waiting passed hu =>
    have hp : passed = 0 ∨ passed = 1 := by omega
    rcases hp with rfl | rfl
    · exact .waiting 1 (Nat.le_refl _)
    · simp only [Core.pass_discovery]
      by_cases ha : (k.registry.register c).1 = .added
      · rw [Core.enter_added ha]
        exact .follows (.change k.clock 2 none (by decide) (by decide))
      · rw [Core.enter_refused ha]
        exact .refused
  | refused => cases hf
  | follows h => exact .follows (h.pass k)

theorem Discovers.step (h : g.Discovers s.meterId c) (m : Meter δ ρ) :
    (step (Chain.standard s) g m).1.Discovers s.meterId c := by
  rcases Meter.step_cases s g m with ⟨-,he⟩ | ⟨-,hp,-⟩ | ⟨hf,-,hland,-⟩
  · rw [he]
    exact h
  · have hle := h.passed_le
    omega
  · rw [hland]
    exact h.pass hf m.core

theorem Discovers.eq_of_passed (h : g.Discovers meterId c) (hp : g.passed ≤ 1) :
    g.message = .discovery c ∧ (g.fate = none ∨ g = ⟨.discovery c,1,some .stopped⟩) := by
  cases h with
  | waiting => exact ⟨rfl,.inl rfl⟩
  | refused => exact ⟨rfl,.inr rfl⟩
  | follows h =>
    have hl := h.passed_bounds.1
    omega

theorem Discovers.follows_of_passed (h : g.Discovers meterId c) (hp : 2 ≤ g.passed) :
    g.Follows meterId c := by
  cases h with
  | waiting passed hu =>
    have hl : 2 ≤ passed := hp
    omega
  | refused => exact absurd hp (Nat.not_succ_le_self 1)
  | follows h => exact h

theorem step_crossed (s : ChainSettings) (g : Flight) (m : Meter δ ρ) (h : g.fate ≠ none ∨ g.passed ≠ 1) :
    (2 ≤ (step (Chain.standard s) g m).1.passed ↔ 2 ≤ g.passed) ∧
      ((step (Chain.standard s) g m).1.passed ≤ 1 → (step (Chain.standard s) g m).1.fate = g.fate) ∧
      (step (Chain.standard s) g m).2.registry = m.registry := by
  rcases Meter.step_cases s g m with ⟨-,he⟩ | ⟨-,hp,he⟩ | ⟨hf,-,hland,hk⟩
  · rw [he]
    exact ⟨.rfl,fun _ => rfl,rfl⟩
  · rw [he]
    exact ⟨.rfl,fun (hl : g.passed ≤ 1) => by omega,rfl⟩
  · have hp : g.passed ≠ 1 := h.resolve_left (absurd hf)
    have hr := (congrArg Core.registry hk).trans (Core.pass_registry hp g.message m.core)
    rw [hland]
    rcases ha : m.core.pass s.meterId g.passed g.message with ⟨a,l⟩
    cases a with
    | ok msg =>
      refine ⟨?_,fun _ => rfl,hr⟩
      show 2 ≤ g.passed+1 ↔ _
      omega
    | error p =>
      refine ⟨.rfl,fun (hl : g.passed ≤ 1) => ?_,hr⟩
      have hp : g.passed = 0 := by omega
      rw [hp] at ha
      cases ha

theorem step_fresh (s : ChainSettings) (g : Flight) (m : Meter δ ρ)
    (h : (step (Chain.standard s) g m).1.passed ≤ 1) :
    g.passed ≤ 1 ∧ (step (Chain.standard s) g m).1.message = g.message := by
  rcases Meter.step_cases s g m with ⟨-,he⟩ | ⟨-,-,he⟩ | ⟨-,-,hland,-⟩
  · rw [he] at h ⊢
    exact ⟨h,rfl⟩
  · rw [he] at h ⊢
    exact ⟨h,rfl⟩
  · rw [hland] at h ⊢
    rcases ha : m.core.pass s.meterId g.passed g.message with ⟨a,l⟩
    rw [ha] at h
    cases a with
    | error p => exact ⟨h,rfl⟩
    | ok msg =>
      have hp : g.passed = 0 := by
        have hl : g.passed+1 ≤ 1 := h
        omega
      rw [hp] at ha
      cases ha
      exact ⟨by omega,rfl⟩

end Flight

/-- Nobody has had the container registered, or somebody has, and no other discovery has got past. -/
inductive Won (policy : Policy) (n : String) (ms : List Message) (r : Registry) (gs : List Flight) : Prop
  | undecided (free : r.get? n = none)
    (behind : ∀ i c g,Racer n ms i c → gs[i]? = some g →
      g.passed ≤ 1 ∧ (g.fate ≠ none → policy.isTrackable c = false))
  | decided (i : Nat) (c : Container) (racer : Racer n ms i c) (trackable : policy.isTrackable c = true)
    (held : r.get? n = some c)
    (alone : ∀ j d g,Racer n ms j d → gs[j]? = some g → (2 ≤ g.passed ↔ j = i))

namespace Won

variable {policy : Policy} {n : String} {ms : List Message} {r r' : Registry} {gs : List Flight}
  {i : Nat} {g g' : Flight}

theorem replace (h : Won policy n ms r gs) (hg : gs[i]? = some g) (hr : r'.get? n = r.get? n)
    (hs : ∀ c,Racer n ms i c → (2 ≤ g'.passed ↔ 2 ≤ g.passed) ∧
      (g'.passed ≤ 1 → g'.fate ≠ none →
        g.fate ≠ none ∨ policy.isTrackable c = false ∨ r.isRegistered n = true)) :
    Won policy n ms r' (gs.set i g') := by
  cases h with
  | undecided free behind =>
    refine .undecided (hr.trans free) ?_
    intro j c x hj hx
    rcases Team.of_getElem?_set hx with ⟨rfl,rfl⟩ | ⟨-,hx⟩
    · obtain ⟨hp,hf⟩ := hs c hj
      obtain ⟨hle,hlost⟩ := behind j c g hj hg
      refine ⟨by omega,?_⟩
      intro hf'
      rcases hf (by omega) hf' with hl | hl | hl
      · exact hlost hl
      · exact hl
      · rw [Registry.isRegistered_eq,free] at hl
        cases hl
    · exact behind j c x hj hx
  | decided w c racer trackable held alone =>
    refine .decided w c racer trackable (hr.trans held) ?_
    intro j d x hj hx
    rcases Team.of_getElem?_set hx with ⟨rfl,rfl⟩ | ⟨-,hx⟩
    · rw [(hs d hj).1]
      exact alone j d g hj hg
    · exact alone j d x hj hx

theorem enter {c : Container} (h : Won policy n ms r gs) (hp : r.policy = policy) (hi : Racer n ms i c)
    (hg : gs[i]? = some g) (h1 : g.passed = 1) (hg' : (r.register c).1 = .added → g'.passed = 2)
    (hg'' : (r.register c).1 ≠ .added → g'.passed = 1) :
    Won policy n ms (r.register c).2 (gs.set i g') := by
  obtain rfl := hp
  by_cases ha : (r.register c).1 = .added
  · obtain ⟨ht,hn⟩ := Registry.register_eq_added_iff.mp ha
    cases h with
    | decided w d racer trackable held =>
      rw [hi.2,Registry.isRegistered_eq,held] at hn
      cases hn
    | undecided free behind =>
      refine .decided i c hi ht ?_ ?_
      · rw [Registry.get?_register,if_pos ⟨ha,hi.2.symm⟩]
      · intro j d x hj hx
        rcases Team.of_getElem?_set hx with ⟨rfl,rfl⟩ | ⟨hne,hx⟩
        · simp [hg' ha]
        · have hle := (behind j d x hj hx).1
          exact ⟨fun hl => absurd hl (by omega),fun hj => absurd hj hne⟩
  · rw [Registry.register_snd_of_ne ha]
    refine h.replace hg rfl ?_
    intro d hd
    have hd : d = c := by
      have := hd.1.symm.trans hi.1
      cases this
      rfl
    subst hd
    rw [h1,hg'' ha]
    refine ⟨.rfl,fun _ _ => .inr ?_⟩
    rw [Registry.register_eq_added_iff,not_and_or,Bool.not_eq_true,Bool.not_eq_false,hi.2] at ha
    exact ha

end Won

/-- How the workers stand to the messages that were sent, with the registry in between. -/
structure Race (s : ChainSettings) (before : Registry) (n : String) (ms : List Message) {δ ρ : Type}
    (t : Traffic (Watched δ ρ)) : Prop where
  policy : t.state.registry.policy = before.policy
  fresh : ∀ (i : Nat) (g : Flight),t.members[i]? = some g → g.passed ≤ 1 → ms[i]? = some g.message
  course : ∀ i c,Racer n ms i c → ∃ g,t.members[i]? = some g ∧ g.Discovers s.meterId c
  won : Won before.policy n ms t.state.registry t.members

namespace Race

variable {δ ρ : Type} {s : ChainSettings} {before : Registry} {n : String} {ms : List Message}
  {t : Traffic (Watched δ ρ)} {i : Nat} {c : Container} {g : Flight}

theorem ofMessages {m : Watched δ ρ} (hfree : m.registry.isRegistered n = false) :
    Race s m.registry n ms (Traffic.ofMessages ms m) where
  policy := rfl
  fresh := by
    intro i g hg _
    obtain ⟨msg,hmsg,rfl⟩ := Option.map_eq_some_iff.mp ((List.getElem?_map ..).symm.trans hg)
    exact hmsg
  course := by
    intro i c hi
    refine ⟨⟨.discovery c,0,none⟩,?_,.waiting 0 (Nat.zero_le _)⟩
    exact (List.getElem?_map ..).trans (congrArg _ hi.1)
  won := by
    refine .undecided (Registry.get?_of_not_isRegistered hfree) ?_
    intro i c g _ hg
    obtain ⟨msg,-,rfl⟩ := Option.map_eq_some_iff.mp ((List.getElem?_map ..).symm.trans hg)
    exact ⟨Nat.zero_le _,fun hf => absurd rfl hf⟩

theorem discovers (h : Race s before n ms t) (hi : Racer n ms i c) (hg : t.members[i]? = some g) :
    g.Discovers s.meterId c := by
  obtain ⟨g',hg',hd⟩ := h.course i c hi
  obtain rfl : g' = g := Option.some.inj (hg'.symm.trans hg)
  exact hd

variable [ContainerRuntime δ] [Backend ρ]

theorem won_step (h : Race s before n ms t) (hms : ∀ msg ∈ ms,msg.halts n = false)
    (hg : t.members[i]? = some g) :
    Won before.policy n ms (Flight.step (Chain.standard s) g t.state).2.registry
      (t.members.set i (Flight.step (Chain.standard s) g t.state).1) := by
  by_cases hat : g.fate = none ∧ g.passed = 1
  · obtain ⟨hf,hp⟩ := hat
    have hmsg := h.fresh i g hg (by omega)
    rcases Meter.step_cases s g t.state with ⟨hl,-⟩ | ⟨-,hl,-⟩ | ⟨-,-,hland,hk⟩
    · exact absurd hf hl
    · omega
    · have hr : (Flight.step (Chain.standard s) g t.state).2.registry =
          t.state.registry.heed g.message := by
        rw [← Meter.core_registry,hk,hp]
        exact Core.pass_heed s.meterId g.message t.state.core
      cases hd : g.message.discovers n with
      | false =>
        -- Another message leaves the name alone at the registry, and is none of those that race.
        refine h.won.replace hg ?_ ?_
        · rw [hr]
          exact Registry.get?_heed_other (hms _ (List.mem_of_getElem? hmsg)) hd
        · intro c hc
          have he : g.message = .discovery c := Option.some.inj (hmsg.symm.trans hc.1)
          rw [he] at hd
          simp [Message.discovers,hc.2] at hd
      | true =>
        obtain ⟨c,hc,hi⟩ := Racer.of_discovers hmsg hd
        rw [hr,hland,hp,hc]
        refine h.won.enter h.policy hi hg hp ?_ ?_
        · intro ha
          rw [Core.pass_discovery,Core.enter_added ha]
          exact congrArg (·+1) hp
        · intro ha
          rw [Core.pass_discovery,Core.enter_refused ha]
          exact hp
  · have hat : g.fate ≠ none ∨ g.passed ≠ 1 := by
      rw [not_and_or] at hat
      exact hat
    obtain ⟨hcross,hfate,hr⟩ := Flight.step_crossed s g t.state hat
    refine h.won.replace hg (by rw [hr]) ?_
    intro c hc
    refine ⟨hcross,fun hl hf => .inl ?_⟩
    rwa [hfate hl] at hf

omit [ContainerRuntime δ] [Backend ρ] in
theorem incident (h : Race s before n ms t) (o : Incident δ ρ) :
    Race s before n ms { t with state := o.take t.state } where
  policy := (congrArg Registry.policy (o.take_registry t.state)).trans h.policy
  fresh := h.fresh
  course := h.course
  won := by
    show Won _ n ms (o.take t.state).registry t.members
    rw [o.take_registry]
    exact h.won

theorem step (h : Race s before n ms t) (hms : ∀ msg ∈ ms,msg.halts n = false) (i : Nat) :
    Race s before n ms (t.step (Flight.step (Chain.standard s)) i) := by
  have hpolicy : (t.step (Flight.step (Chain.standard s)) i).state.core.registry.policy = before.policy :=
    Traffic.step_keeps (P := fun k => k.registry.policy = before.policy)
      (fun i msg k hk => (Core.pass_policy s.meterId i msg k).trans hk) h.policy
  cases hg : t.members[i]? with
  | none =>
    rw [Team.step_none hg]
    exact h
  | some g =>
    rw [Team.step_some hg] at hpolicy ⊢
    refine ⟨hpolicy,?_,?_,h.won_step hms hg⟩
    · intro j x hx hp
      rcases Team.of_getElem?_set hx with ⟨rfl,rfl⟩ | ⟨-,hx⟩
      · obtain ⟨hle,hmsg⟩ := Flight.step_fresh s g t.state hp
        rw [hmsg]
        exact h.fresh j g hg hle
      · exact h.fresh j x hx hp
    · intro j c hj
      rcases eq_or_ne i j with rfl | hne
      · refine ⟨_,List.getElem?_set_self (List.getElem?_eq_some_iff.mp hg).1,?_⟩
        exact (h.discovers hj hg).step t.state
      · obtain ⟨x,hx,hd⟩ := h.course j c hj
        exact ⟨x,(List.getElem?_set_ne hne).trans hx,hd⟩

theorem take (h : Race s before n ms t) (hms : ∀ msg ∈ ms,msg.halts n = false) (x : Move δ ρ) :
    Race s before n ms (x.take s t) := by
  cases x with
  | step i => exact h.step hms i
  | incident o => exact h.incident o

theorem run (h : Race s before n ms t) (hms : ∀ msg ∈ ms,msg.halts n = false) (moves : List (Move δ ρ)) :
    Race s before n ms (Traffic.run s moves t) := by
  induction moves generalizing t with
  | nil => exact h
  | cons x moves ih => exact ih (h.take hms x)

omit [ContainerRuntime δ] [Backend ρ]

/-- Of the messages of a kind, those behind the registry are one discovery at most, beside what is none. -/
theorem visits_le (h : Race s before n ms t) {kind : Message → Bool} {j : Nat} (hj : 2 ≤ j)
    (ha : t.kinds kind = ms.map kind) :
    t.visits kind j ≤ 1+ms.countP fun msg => kind msg && !msg.discovers n := by
  have hplace : ∀ i (g : Flight),t.members[i]? = some g → (∀ c,Racer n ms i c → ¬2 ≤ g.passed) →
      (kind g.message && g.had j) = true →
      ∃ msg,ms[i]? = some msg ∧ (kind msg && !msg.discovers n) = true := by
    intro i g hg hno hp
    rw [Bool.and_eq_true] at hp
    have hi : (t.kinds kind)[i]? = some true := by
      rw [Traffic.kinds,List.getElem?_map,hg,← hp.1]
      rfl
    rw [ha,List.getElem?_map] at hi
    obtain ⟨msg,hmsg,hkind⟩ := Option.map_eq_some_iff.mp hi
    refine ⟨msg,hmsg,?_⟩
    cases hd : msg.discovers n with
    | false => rw [hkind]; rfl
    | true =>
      obtain ⟨c,-,hc⟩ := Racer.of_discovers hmsg hd
      exact absurd (Nat.le_trans hj (Flight.le_passed hp.2)) (hno c hc)
  cases h.won with
  | undecided free behind =>
    refine Nat.le_add_left_of_le (Team.countP_le_of_places fun i g hg => hplace i g hg ?_)
    intro c hc hl
    have hle := (behind i c g hc hg).1
    omega
  | decided w c racer trackable held alone =>
    -- The winner is taken off the count, and what is left are no discoveries.
    obtain ⟨g,hg,-⟩ := h.course w c racer
    have hset := Team.countP_set_add (fun g : Flight => kind g.message && g.had j) hg
      { message := .devnull }
    have hone : ∀ b : Bool,b.toNat ≤ 1 := by decide
    have hnew : Flight.had j { message := .devnull } = false := by simp [Flight.had]
    have hrest : (t.members.set w { message := .devnull }).countP
        (fun g : Flight => kind g.message && g.had j) ≤
        ms.countP fun msg => kind msg && !msg.discovers n := by
      refine Team.countP_le_of_places fun i x hx => ?_
      rcases Team.of_getElem?_set hx with ⟨-,rfl⟩ | ⟨hne,hx⟩
      · intro hp
        rw [hnew,Bool.and_false] at hp
        cases hp
      · refine hplace i x hx ?_
        intro d hd hl
        exact hne ((alone i d x hd hx).mp hl)
    have hw := hone (kind g.message && g.had j)
    simp only [hnew,Bool.and_false,Bool.toNat_false] at hset
    unfold Traffic.visits
    omega

/-- The discovery that has come through: its descriptor is registered, it has gone on as a change to
running, and all others have ended at the registry. -/
structure Winner (s : ChainSettings) (n : String) (ms : List Message) (t : Traffic (Watched δ ρ))
    (i : Nat) (c : Container) : Prop where
  racer : Racer n ms i c
  held : t.state.registry.get? n = some c
  follows : ∃ g,t.members[i]? = some g ∧ g.Follows s.meterId c
  refused : ∀ j d,Racer n ms j d → j ≠ i → t.members[j]? = some ⟨.discovery d,1,some .stopped⟩

theorem refused (h : Race s before n ms t) (hdone : ∀ g ∈ t.members,g.fate ≠ none) (hi : Racer n ms i c)
    (hp : ∀ g,t.members[i]? = some g → g.passed ≤ 1) :
    t.members[i]? = some ⟨.discovery c,1,some .stopped⟩ := by
  obtain ⟨g,hg,hd⟩ := h.course i c hi
  rcases (hd.eq_of_passed (hp g hg)).2 with hf | rfl
  · exact absurd hf (hdone g (List.mem_of_getElem? hg))
  · exact hg

theorem winner (h : Race s before n ms t) (hdone : ∀ g ∈ t.members,g.fate ≠ none)
    (hi : Racer n ms i c) (ht : before.isTrackable c = true) :
    ∃ j d,before.isTrackable d = true ∧ Winner s n ms t j d := by
  cases h.won with
  | undecided free behind =>
    obtain ⟨g,hg,-⟩ := h.course i c hi
    have hlost : before.isTrackable c = false :=
      (behind i c g hi hg).2 (hdone g (List.mem_of_getElem? hg))
    rw [hlost] at ht
    cases ht
  | decided w d racer trackable held alone =>
    refine ⟨w,d,trackable,racer,held,?_,?_⟩
    · obtain ⟨g,hg,hd⟩ := h.course w d racer
      exact ⟨g,hg,hd.follows_of_passed ((alone w d g racer hg).mpr rfl)⟩
    · intro j e hj hne
      refine h.refused hdone hj fun g hg => ?_
      have hno := mt (alone j e g hj hg).mp hne
      omega

theorem free_of_untrackable (h : Race s before n ms t)
    (hno : ∀ i c,Racer n ms i c → before.isTrackable c = false) :
    t.state.registry.get? n = none ∧
      ∀ i c g,Racer n ms i c → t.members[i]? = some g → g.passed ≤ 1 := by
  cases h.won with
  | undecided free behind => exact ⟨free,fun i c g hi hg => (behind i c g hi hg).1⟩
  | decided w d racer trackable =>
    have hd : before.isTrackable d = true := trackable
    rw [hno w d racer] at hd
    cases hd

variable [ContainerRuntime δ] [Backend ρ]

theorem step_untrackable (h : Race s before n ms t)
    (hno : ∀ i c,Racer n ms i c → before.isTrackable c = false) (hi : Racer n ms i c) :
    (t.step (Flight.step (Chain.standard s)) i).state.core = t.state.core := by
  obtain ⟨g,hg,hd⟩ := h.course i c hi
  have hp := (h.free_of_untrackable hno).2 i c g hi hg
  have hmsg := (hd.eq_of_passed hp).1
  rw [Team.step_some hg]
  rcases Meter.step_cases s g t.state with ⟨-,he⟩ | ⟨-,hl,-⟩ | ⟨-,-,-,hk⟩
  · rw [he]
  · omega
  · refine hk.trans ?_
    have hp : g.passed = 0 ∨ g.passed = 1 := by omega
    rcases hp with hp | hp
    · rw [hp]
      rfl
    · have ha : (t.state.core.registry.register c).1 ≠ .added := by
        intro ha
        have ht : t.state.registry.policy.isTrackable c = true :=
          (Registry.register_eq_added_iff.mp ha).1
        rw [h.policy] at ht
        exact absurd (ht.symm.trans (hno i c hi)) (by decide)
      rw [hp,hmsg,Core.pass_discovery,Core.enter_refused ha]

end Race

namespace Traffic

variable {δ ρ : Type} [ContainerRuntime δ] [Backend ρ] {n : String} {ms : List Message}
  {moves : List (Move δ ρ)}

/-- A count that one filter adds to grows by one at most on behalf of all the discoveries together. -/
theorem counted_once (s : ChainSettings) {m : Watched δ ρ} {j : Nat}
    {V : Core (Tallied δ) (Tapped ρ) → Prop} {kind : Message → Bool}
    {X : Core (Tallied δ) (Tapped ρ) → Nat} (hX : Core.Counted V kind j X) (hj : 2 ≤ j)
    (hv : V m.core) (hk : Keep s V moves) (hfree : m.registry.isRegistered n = false)
    (hms : ∀ msg ∈ ms,msg.halts n = false) :
    X (run s moves (ofMessages ms m)).state.core ≤
      X m.core+1+ms.countP fun msg => kind msg && !msg.discovers n := by
  have hrace : Race s m.registry n ms (run s moves (ofMessages ms m)) :=
    (Race.ofMessages hfree).run hms moves
  obtain ⟨hkind,hcount⟩ := run_counted (s := s) (t := ofMessages ms m) hX hk hv
  have hvisits := hrace.visits_le hj (hkind.trans (List.map_map ..))
  have hstart : X (ofMessages ms m).state.core = X m.core := rfl
  omega

/-- Discoveries of a container that is not registered are sent by any number of workers, in any order of
their filters, among messages of which none stops the container. If one of them can be tracked, then one
comes through when all have landed, and the others are refused. If none can be tracked, no step of theirs
changes anything. Where there are discoveries of the container only, one channel is opened at most, and one
report handed over that it runs. Where others take part, the discoveries together add no more than that, if
the runtime describes containers, and opens channels for them, under the names it is asked for. -/
theorem discovered_once (s : ChainSettings) (moves : List (Move δ ρ)) {m : Watched δ ρ}
    (hm : m.core.Orderly) (hfree : m.registry.isRegistered n = false)
    (hms : ∀ msg ∈ ms,msg.halts n = false) :
    ((∃ i c,Racer n ms i c ∧ m.registry.isTrackable c = true) →
        (∀ g ∈ (run s moves (ofMessages ms m)).members,g.fate ≠ none) →
        ∃ i c,m.registry.isTrackable c = true ∧
          Race.Winner s n ms (run s moves (ofMessages ms m)) i c) ∧
      ((∀ i c,Racer n ms i c → m.registry.isTrackable c = false) →
        (run s moves (ofMessages ms m)).state.registry.get? n = none ∧
        ∀ us i c,Racer n ms i c → (run s (us++[.step i]) (ofMessages ms m)).state.core =
          (run s us (ofMessages ms m)).state.core) ∧
      ((∀ msg ∈ ms,msg.discovers n = true) →
        (run s moves (ofMessages ms m)).state.collector.channels.next ≤
          m.collector.channels.next+1 ∧
        Report.runs n (run s moves (ofMessages ms m)).state.backend.handed ≤
          Report.runs n m.backend.handed+1) ∧
      ∀ [FaithfulRuntime δ],FaithfulRuntime.Valid m.runtime → (∀ x ∈ moves,x.Valid) →
        (run s moves (ofMessages ms m)).state.collector.channels.opened n ≤
          m.collector.channels.opened n+1+Message.others n ms ∧
        Report.runs n (run s moves (ofMessages ms m)).state.backend.handed ≤
          Report.runs n m.backend.handed+1+Message.others n ms := by
  have hrace : ∀ moves,Race s m.registry n ms (run s moves (ofMessages ms m)) :=
    fun moves => (Race.ofMessages hfree).run hms moves
  refine ⟨?_,?_,?_,?_⟩
  · rintro ⟨i,c,hi,ht⟩ hdone
    exact (hrace moves).winner hdone hi ht
  · intro hno
    refine ⟨((hrace moves).free_of_untrackable hno).1,?_⟩
    intro us i c hi
    have hsplit : run s (us++[.step i]) (ofMessages ms m) =
        (run s us (ofMessages ms m)).step (Flight.step (Chain.standard s)) i := List.foldl_append ..
    rw [hsplit]
    exact (hrace us).step_untrackable hno hi
  · intro hd
    have hnone : (ms.countP fun msg => true && !msg.discovers n) = 0 := by
      refine List.countP_eq_zero.mpr fun msg hmsg => ?_
      simp [hd msg hmsg]
    have hkeep := keep_orderly s moves
    have hchannels := counted_once s Core.counted_channels (by decide) hm hkeep hfree hms
    have hruns := counted_once s (Core.counted_runs_all n) (by decide) hm hkeep hfree hms
    rw [hnone] at hchannels hruns
    exact ⟨hchannels,hruns⟩
  · intro _ hr hv
    have hkeep := keep_valid s hv
    exact ⟨counted_once s (Core.counted_opened n) (by decide) ⟨hm,hr⟩ hkeep hfree hms,
      counted_once s (Core.counted_runs n) (by decide) ⟨hm,hr⟩ hkeep hfree hms⟩

def crowding : List (Move Fleet Inbox) :=
  [.step 0,.step 1,.step 2,.step 2,.step 1,.step 0,.step 2,.step 2,.step 2,.step 2,.step 2]

def crowded : List Message :=
  [.discovery { name := "web" },.discovery (Watched.web.withImage "nginx" "latest"),
    .discovery Watched.web]

/-- One of the two that can be tracked has come through, and its descriptor has been kept. -/
theorem discovered_once_crowded :
    (∃ i c,Watched.small.registry.isTrackable c = true ∧
      Race.Winner Watched.chain "web" crowded
        (run Watched.chain crowding (ofMessages crowded Watched.small)) i c) ∧
    (run Watched.chain crowding (ofMessages crowded Watched.small)).state.registry.get? "web" =
      some Watched.web ∧
    (run Watched.chain crowding (ofMessages crowded Watched.small)).state.collector.channels.opened
      "web" = 1 ∧
    Report.runs "web"
      (run Watched.chain crowding (ofMessages crowded Watched.small)).state.backend.handed = 1 := by
  have hms : ∀ msg ∈ crowded,msg.halts "web" = false := by decide
  obtain ⟨hwin,-⟩ := discovered_once Watched.chain crowding Watched.small_blank.orderly rfl hms
  refine ⟨hwin ⟨2,Watched.web,⟨rfl,rfl⟩,by decide⟩ (by decide +kernel),?_,?_,?_⟩ <;> decide +kernel

end Traffic

end HostMeter
