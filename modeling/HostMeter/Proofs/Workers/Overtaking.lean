import HostMeter.Proofs.Workers.Flight
import HostMeter.Proofs.Workers.Stages
set_option autoImplicit false

/-! Between the filter that keeps the registry and the collector a message can be overtaken. A stop that
takes its container off the registry while a start of that container is still on its way to the
collector may be through before it; the container is then sampled without being registered. Nothing
else leaves it so. -/

namespace HostMeter

namespace Flight

/-- The registry has let the message pass, and the collector has not seen it yet. -/
def Between (g : Flight) : Prop := g.fate = none ∧ 2 ≤ g.passed ∧ g.passed ≤ 4

variable {g : Flight} {a : Except Passage Message}

theorem land_between (h : (g.land a).Between) :
    ∃ msg,a = .ok msg ∧ (g.land a).message = msg ∧ 1 ≤ g.passed ∧ g.passed ≤ 3 := by
  obtain ⟨hf,hl,hu⟩ := h
  cases a with
  | error p => cases hf
  | ok msg =>
    have hp : (g.land (.ok msg)).passed = g.passed+1 := rfl
    exact ⟨msg,rfl,rfl,by omega,by omega⟩

theorem between_land (h : g.fate = none) (hl : 1 ≤ g.passed) (hu : g.passed ≤ 3) (msg : Message) :
    (g.land (.ok msg)).Between := by
  have hp : (g.land (.ok msg)).passed = g.passed+1 := rfl
  exact ⟨h,by omega,by omega⟩

end Flight

variable {δ ρ : Type}

/-- A container whose start is on its way is registered, and when it is collected, it is registered or
its stop is on its way. -/
structure Core.Covered (n : String) (k : Core δ ρ) (gs : List Flight) : Prop where
  starts : ∀ g ∈ gs,g.Between → g.message.starts n = true → k.registry.isRegistered n = true
  collected : k.collector.isCollecting n = true →
    k.registry.isRegistered n = true ∨ ∃ g ∈ gs,g.Between ∧ g.message.halts n = true

namespace Core.Covered

variable [ContainerRuntime δ] [Backend ρ] [FaithfulRuntime δ] {k : Core δ ρ} {meterId n : String}
  {gs : List Flight} {i : Nat} {g : Flight}

omit [ContainerRuntime δ] [Backend ρ] [FaithfulRuntime δ] in
theorem replace {l : Core δ ρ} {g' : Flight} (h : k.Covered n gs) (hg : gs[i]? = some g)
    (hb : ¬g.Between) (hb' : ¬g'.Between) (hr : l.registry = k.registry)
    (hc : l.collector = k.collector) : l.Covered n (gs.set i g') where
  starts := by
    intro x hx hx' hs
    rw [hr]
    rcases List.mem_or_eq_of_mem_set hx with hx | rfl
    · exact h.starts x hx hx' hs
    · exact absurd hx' hb'
  collected := by
    intro hn
    rw [hc] at hn
    rw [hr]
    rcases h.collected hn with hn | ⟨x,hx,hx',hh⟩
    · exact .inl hn
    · have hne : x ≠ g := by
        rintro rfl
        exact hb hx'
      exact .inr ⟨x,Team.mem_set_of_ne hg hx hne,hx',hh⟩

omit [FaithfulRuntime δ] in
theorem pass_elsewhere (h : k.Covered n gs) (hg : gs[i]? = some g)
    (hp : g.passed = 0 ∨ 5 ≤ g.passed) :
    (k.pass meterId g.passed g.message).2.Covered n
      (gs.set i (g.land (k.pass meterId g.passed g.message).1)) := by
  have hr : (k.pass meterId g.passed g.message).2.registry = k.registry :=
    Core.pass_registry (by omega) g.message k
  have hc : (k.pass meterId g.passed g.message).2.collector = k.collector :=
    Core.pass_collector (by omega) g.message k
  refine h.replace hg ?_ ?_ hr hc
  · rintro ⟨-,hl,hu⟩
    omega
  · intro hb
    obtain ⟨msg,-,-,hl,hu⟩ := Flight.land_between hb
    omega

omit [FaithfulRuntime δ] in
theorem pass_registry (h : k.Covered n gs) (ho : k.Orderly) (hg : gs[i]? = some g)
    (hf : g.fate = none) (hp : g.passed = 1)
    (hclear : g.message.halts n = true → k.registry.isRegistered n = true →
      ∀ x ∈ gs,x.Between → x.message.starts n = false) :
    (k.pass meterId 1 g.message).2.Covered n (gs.set i (g.land (k.pass meterId 1 g.message).1)) where
  starts := by
    intro x hx hb hs
    rcases List.mem_or_eq_of_mem_set hx with hx | rfl
    · have hr := h.starts x hx hb hs
      rw [pass_heed]
      cases hh : g.message.halts n with
      | false => exact Registry.isRegistered_heed_of_not_halts hr hh
      | true =>
        rw [hclear hh hr x hx hb] at hs
        cases hs
    · obtain ⟨msg,ha,hm,-⟩ := Flight.land_between hb
      rw [hm] at hs
      exact pass_starts (Prod.ext ha rfl) hs
  collected := by
    intro hc
    rw [pass_collector (by decide)] at hc
    rcases h.collected hc with hr | ⟨x,hx,hb,hh⟩
    · cases hh : g.message.halts n with
      | false =>
        rw [pass_heed]
        exact .inl (Registry.isRegistered_heed_of_not_halts hr hh)
      | true =>
        obtain ⟨msg,ha,hm⟩ := pass_halts meterId ho.keyed hr hh
        refine .inr ⟨_,Team.mem_set_self hg,?_,?_⟩
        · rw [ha]
          exact Flight.between_land hf (by omega) (by omega) msg
        · rw [ha]
          exact hm
    · have hne : x ≠ g := by
        rintro rfl
        have hl := hb.2.1
        omega
      exact .inr ⟨x,Team.mem_set_of_ne hg hx hne,hb,hh⟩

/-- On its way to the collector a message stays what it is. -/
theorem pass_between (h : k.Covered n gs) (ho : k.Orderly) (hv : FaithfulRuntime.Valid k.runtime)
    (hg : gs[i]? = some g) (hf : g.fate = none) (hp : g.passed = 2 ∨ g.passed = 3) :
    (k.pass meterId g.passed g.message).2.Covered n
      (gs.set i (g.land (k.pass meterId g.passed g.message).1)) where
  starts := by
    intro x hx hb hs
    rw [Core.pass_registry (by omega)]
    rcases List.mem_or_eq_of_mem_set hx with hx | rfl
    · exact h.starts x hx hb hs
    · obtain ⟨msg,ha,hm,-⟩ := Flight.land_between hb
      obtain ⟨hrole,-⟩ := pass_role hv ho.keyed hp (Prod.ext ha rfl) n
      rw [hm,hrole] at hs
      exact h.starts g (List.mem_of_getElem? hg) ⟨hf,by omega,by omega⟩ hs
  collected := by
    intro hc
    rw [pass_collector (by omega)] at hc
    rw [Core.pass_registry (by omega)]
    rcases h.collected hc with hr | ⟨x,hx,hb,hh⟩
    · exact .inl hr
    · by_cases hne : x = g
      · subst hne
        obtain ⟨msg,ha⟩ := pass_halts_on meterId k hp hh
        obtain ⟨-,hrole⟩ := pass_role hv ho.keyed hp (Prod.ext ha rfl) n
        refine .inr ⟨_,Team.mem_set_self hg,?_,?_⟩
        · rw [ha]
          exact Flight.between_land hf (by omega) (by omega) msg
        · rw [ha]
          exact hrole.trans hh
      · exact .inr ⟨x,Team.mem_set_of_ne hg hx hne,hb,hh⟩

theorem pass_collector (h : k.Covered n gs) (ho : k.Orderly) (hv : FaithfulRuntime.Valid k.runtime)
    (hg : gs[i]? = some g) (hf : g.fate = none) (hp : g.passed = 4) :
    (k.pass meterId 4 g.message).2.Covered n (gs.set i (g.land (k.pass meterId 4 g.message).1)) where
  starts := by
    intro x hx hb hs
    rw [Core.pass_registry (by decide)]
    rcases List.mem_or_eq_of_mem_set hx with hx | rfl
    · exact h.starts x hx hb hs
    · obtain ⟨msg,-,-,-,hu⟩ := Flight.land_between hb
      omega
  collected := by
    intro hc
    rw [Core.pass_registry (by decide)]
    obtain ⟨hc,hh⟩ := pass_collecting hv ho.sound hc
    rcases hc with hc | hs
    · rcases h.collected hc with hr | ⟨x,hx,hb,hx'⟩
      · exact .inl hr
      · have hne : x ≠ g := by
          rintro rfl
          rw [hh] at hx'
          cases hx'
        exact .inr ⟨x,Team.mem_set_of_ne hg hx hne,hb,hx'⟩
    · exact .inl (h.starts g (List.mem_of_getElem? hg) ⟨hf,by omega,by omega⟩ hs)

/-- Whatever filter a worker takes next, unless a stop overtakes a start there. -/
theorem pass (h : k.Covered n gs) (ho : k.Orderly) (hv : FaithfulRuntime.Valid k.runtime)
    (hg : gs[i]? = some g) (hf : g.fate = none)
    (hclear : g.passed = 1 → g.message.halts n = true → k.registry.isRegistered n = true →
      ∀ x ∈ gs,x.Between → x.message.starts n = false) :
    (k.pass meterId g.passed g.message).2.Covered n
      (gs.set i (g.land (k.pass meterId g.passed g.message).1)) := by
  by_cases h1 : g.passed = 1
  · rw [h1]
    exact h.pass_registry ho hg hf h1 (hclear h1)
  · by_cases h4 : g.passed = 4
    · rw [h4]
      exact h.pass_collector ho hv hg hf h4
    · by_cases hb : g.passed = 2 ∨ g.passed = 3
      · exact h.pass_between ho hv hg hf hb
      · exact h.pass_elsewhere hg (by omega)

end Core.Covered

namespace Traffic

variable [ContainerRuntime δ] [Backend ρ] {s : ChainSettings} {t : Traffic (Watched δ ρ)}
  {n : String} {i : Nat} {moves : List (Move δ ρ)}

/-- A worker is about to take a stop past the registry, which has its container, while a start of that
container is on its way to the collector. -/
structure Overtakes (n : String) (i : Nat) (t : Traffic (Watched δ ρ)) : Prop where
  registered : t.state.registry.isRegistered n = true
  stop : ∃ g,t.members[i]? = some g ∧ g.fate = none ∧ g.passed = 1 ∧ g.message.halts n = true
  start : ∃ g ∈ t.members,g.Between ∧ g.message.starts n = true

def Covered (n : String) (t : Traffic (Watched δ ρ)) : Prop := t.state.core.Covered n t.members

theorem step_keeps {P : Core (Tallied δ) (Tapped ρ) → Prop}
    (hpass : ∀ i msg k,P k → P (k.pass s.meterId i msg).2) (h : P t.state.core) :
    P (t.step (Flight.step (Chain.standard s)) i).state.core := by
  cases hg : t.members[i]? with
  | none =>
    rw [Team.step_none hg]
    exact h
  | some g =>
    rw [Team.step_some hg]
    rcases Meter.step_cases s g t.state with ⟨-,he⟩ | ⟨-,-,he⟩ | ⟨-,-,-,hk⟩
    · rw [he]
      exact h
    · rw [he]
      exact h
    · rw [hk]
      exact hpass g.passed g.message _ h

variable [FaithfulRuntime δ]

theorem take_orderly {x : Move δ ρ} (hx : x.Valid) (ho : t.state.core.Orderly)
    (hv : FaithfulRuntime.Valid t.state.runtime) :
    (x.take s t).state.core.Orderly ∧ FaithfulRuntime.Valid (x.take s t).state.runtime := by
  cases x with
  | step i =>
    exact step_keeps (P := fun k => k.Orderly ∧ FaithfulRuntime.Valid k.runtime)
      (fun i msg k ⟨ho,hv⟩ => ⟨Core.pass_orderly ho i msg,Core.pass_valid hv i msg⟩) ⟨ho,hv⟩
  | incident o => exact ⟨o.take_orderly ho,Incident.take_valid hv hx⟩

theorem run_orderly (hm : ∀ x ∈ moves,x.Valid) (ho : t.state.core.Orderly)
    (hv : FaithfulRuntime.Valid t.state.runtime) :
    (run s moves t).state.core.Orderly ∧ FaithfulRuntime.Valid (run s moves t).state.runtime := by
  induction moves generalizing t with
  | nil => exact ⟨ho,hv⟩
  | cons x moves ih =>
    obtain ⟨ho',hv'⟩ := take_orderly (s := s) (hm x List.mem_cons_self) ho hv
    exact ih (fun y hy => hm y (List.mem_cons_of_mem _ hy)) ho' hv'

theorem step_covered (h : t.Covered n) (ho : t.state.core.Orderly)
    (hv : FaithfulRuntime.Valid t.state.runtime) (hno : ¬t.Overtakes n i) :
    Covered n (t.step (Flight.step (Chain.standard s)) i) := by
  cases hg : t.members[i]? with
  | none =>
    rw [Team.step_none hg]
    exact h
  | some g =>
    rw [Team.step_some hg]
    rcases Meter.step_cases s g t.state with ⟨hf,he⟩ | ⟨-,hp,he⟩ | ⟨hf,-,hland,hk⟩
    · have hb : ¬g.Between := fun hb => hf hb.1
      rw [he]
      exact Core.Covered.replace h hg hb hb rfl rfl
    · rw [he]
      refine Core.Covered.replace h hg ?_ ?_ rfl rfl
      · rintro ⟨-,-,hu⟩
        omega
      · rintro ⟨hn,-⟩
        cases hn
    · unfold Covered
      rw [hland,hk]
      refine Core.Covered.pass h ho hv hg hf ?_
      intro h1 hh hr x hx hb
      rw [← Bool.not_eq_true]
      intro hs
      exact hno ⟨hr,⟨g,hg,hf,h1,hh⟩,x,hx,hb,hs⟩

omit [ContainerRuntime δ] [Backend ρ] [FaithfulRuntime δ] in
theorem incident_covered (h : t.Covered n) (ho : t.state.core.Orderly) (o : Incident δ ρ) :
    Covered n { t with state := o.take t.state } where
  starts := by
    intro g hg hb hs
    show (o.take t.state).registry.isRegistered n = true
    rw [o.take_registry]
    exact h.starts g hg hb hs
  collected := by
    intro hc
    show (o.take t.state).registry.isRegistered n = true ∨ _
    rw [o.take_registry]
    exact h.collected (o.isCollecting_take ho.sound n hc)

/-- A container stays covered until a stop of it overtakes a start. -/
theorem run_covered (hm : ∀ x ∈ moves,x.Valid) (ho : t.state.core.Orderly)
    (hv : FaithfulRuntime.Valid t.state.runtime) (h : t.Covered n) :
    (run s moves t).Covered n ∨
      ∃ us i vs,moves = us++.step i :: vs ∧ (run s us t).Overtakes n i := by
  induction moves generalizing t with
  | nil => exact .inl h
  | cons x moves ih =>
    obtain ⟨ho',hv'⟩ := take_orderly (s := s) (hm x List.mem_cons_self) ho hv
    have hrest : ∀ {t' : Traffic (Watched δ ρ)},x.take s t = t' → t'.Covered n →
        (run s (x :: moves) t).Covered n ∨
          ∃ us i vs,x :: moves = us++.step i :: vs ∧ (run s us t).Overtakes n i := by
      rintro _ rfl h'
      rcases ih (fun y hy => hm y (List.mem_cons_of_mem _ hy)) ho' hv' h' with hc | ⟨us,i,vs,he,hi⟩
      · exact .inl hc
      · exact .inr ⟨x :: us,i,vs,by rw [he]; rfl,hi⟩
    cases x with
    | step i =>
      by_cases hi : t.Overtakes n i
      · exact .inr ⟨[],i,moves,rfl,hi⟩
      · exact hrest rfl (step_covered h ho hv hi)
    | incident o => exact hrest rfl (incident_covered h ho o)

omit [ContainerRuntime δ] [FaithfulRuntime δ] [Backend ρ] in
theorem covered_ofMessages {m : Watched δ ρ} (h : m.core.Tracks) (ms : List Message) :
    (ofMessages ms m).Covered n where
  starts := by
    intro g hg hb
    obtain ⟨msg,-,rfl⟩ := List.mem_map.mp hg
    have hl : 2 ≤ 0 := hb.2.1
    omega
  collected := fun hc => .inl (h n hc)

/-- Messages are sent by any number of workers, in any order of their filters. When all have landed,
what is collected is registered, unless a stop has overtaken a start of the same container. -/
theorem leak_overtaken (s : ChainSettings) {m : Watched δ ρ} (hm : m.core.Steady) (ms : List Message)
    (hv : ∀ x ∈ moves,x.Valid) (hdone : ∀ g ∈ (run s moves (ofMessages ms m)).members,g.fate ≠ none)
    (hc : (run s moves (ofMessages ms m)).state.collector.isCollecting n = true) :
    (run s moves (ofMessages ms m)).state.registry.isRegistered n = true ∨
      ∃ us i vs,moves = us++.step i :: vs ∧ (run s us (ofMessages ms m)).Overtakes n i := by
  rcases run_covered hv hm.toOrderly hm.valid (covered_ofMessages hm.tracks ms) with h | h
  · rcases h.collected hc with hr | ⟨g,hg,hb,-⟩
    · exact .inl hr
    · exact absurd hb.1 (hdone g hg)
  · exact .inr h

def racing : List (Move Fleet Inbox) :=
  [.step 0,.step 0,.step 1,.step 1,.step 1,.step 1,.step 1,.step 1,.step 1,
    .step 0,.step 0,.step 0,.step 0,.step 0]

def raced : List Message := [.discovery Watched.web,.change (.ofEvent Watched.webDeleted)]

/-- The container is sampled and not registered, and its stop has overtaken its start. -/
theorem leak_overtaken_racing :
    (run Watched.chain racing (ofMessages raced Watched.small)).state.collector.isCollecting
        "web" = true ∧
      (run Watched.chain racing (ofMessages raced Watched.small)).state.registry.isRegistered
        "web" = false ∧
      ∃ us i vs,racing = us++.step i :: vs ∧
        (run Watched.chain us (ofMessages raced Watched.small)).Overtakes "web" i := by
  have hc : (run Watched.chain racing (ofMessages raced Watched.small)).state.collector.isCollecting
      "web" = true := by decide
  have hr : (run Watched.chain racing (ofMessages raced Watched.small)).state.registry.isRegistered
      "web" = false := by decide
  have hv : ∀ x ∈ racing,x.Valid := by simp [racing,Move.Valid]
  refine ⟨hc,hr,?_⟩
  rcases leak_overtaken Watched.chain (Watched.small_blank.steady (Fleet.keyed_ofContainers _)) raced hv
    (by decide) hc with h | h
  · rw [hr] at h
    cases h
  · exact h

end Traffic

end HostMeter
