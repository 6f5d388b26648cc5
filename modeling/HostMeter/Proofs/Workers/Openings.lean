import HostMeter.Proofs.Collector.Usage
import HostMeter.Proofs.Workers.Overtaking
set_option autoImplicit false

/-! How many channels are opened for a container, and how many reports are handed over that it runs, while
workers take any messages through the chain. Only one filter opens channels and only one hands reports
over, neither more than once for a message. So there are at most as many as messages have been there. -/

namespace HostMeter

namespace Report

def isRunOf (n : String) (r : Report) : Bool :=
  match r.data with
  | .change c => decide (c.state = .running ∧ c.containerName = n)
  | .sample _ => false

def runs (n : String) (rs : List Report) : Nat := rs.countP (isRunOf n)

end Report

/-- The sampling of the container starts over such a message, or it is a report that the container runs. -/
def Message.announces (n : String) : Message → Bool
  | .report r => r.isRunOf n
  | msg => msg.starts n

theorem Message.announces_of_starts {n : String} {msg : Message} (h : msg.starts n = true) :
    msg.announces n = true := by
  cases msg with
  | report r => cases h
  | _ => exact h

namespace UsageChannels

variable {n : String}

def opened (n : String) (cs : UsageChannels) : Nat :=
  cs.all.countP fun ch => decide (ch.container.name = n)

def names (cs : UsageChannels) : List String := cs.all.map (·.container.name)

theorem opened_eq (cs : UsageChannels) : cs.opened n = cs.names.countP fun name => decide (name = n) := by
  rw [names,List.countP_map]
  rfl

theorem next_eq (cs : UsageChannels) : cs.next = cs.names.length := (List.length_map _).symm

theorem names_add (cs : UsageChannels) (ch : UsageChannel) :
    (cs.add ch).names = cs.names++[ch.container.name] := List.map_append ..

theorem names_modify (cs : UsageChannels) (i : ChannelId) (f : Channel Usage → Channel Usage) :
    (cs.modify i f).names = cs.names := by
  apply List.ext_getElem?
  intro j
  have hj := get?_modify cs i j f
  simp only [get?] at hj
  rw [names,names,List.getElem?_map,List.getElem?_map,hj]
  split
  · rw [Option.map_map]
    rfl
  · rfl

theorem names_take (cs : UsageChannels) (i : ChannelId) : (cs.take i).2.names = cs.names := by
  unfold take
  split
  · rfl
  · exact names_modify cs i _

theorem names_offer (cs : UsageChannels) (i : ChannelId) (u : Usage) :
    (cs.offer i u).2.names = cs.names := by
  unfold offer
  split
  · rfl
  · exact names_modify cs i _

end UsageChannels

namespace Collector

variable {c : Collector}

theorem names_acquire (o : Opening) (c : Collector) :
    (c.acquire o).channels.names = c.channels.names++[o.container.name] := by
  have ha := c.channels.names_add ⟨o.container,.ofPlaces o.places⟩
  unfold acquire
  cases o.abandoned with
  | none => exact ha
  | some i => exact (UsageChannels.names_modify _ i _).trans ha

theorem names_collect (i : ChannelId) (c : Collector) :
    (c.collect i).2.1.channels.names = c.channels.names := by
  cases hc : c.isCollecting (c.channels.name i) with
  | true =>
    rw [collect_refused hc]
    exact UsageChannels.names_modify c.channels i _
  | false =>
    rw [collect_started hc]
    simp only
    split
    · exact UsageChannels.names_modify c.channels i _
    · rfl

theorem Sound.stop_channels (h : c.Sound) (name : String) :
    (c.stop name).2.1.channels = c.channels := by
  rcases h.stop_cases name with ⟨-,hd⟩ | ⟨l,-,-,hd⟩
  · rw [hd]
  · rw [hd]
    rfl

theorem names_poll (clock : Timestamp) (g : Nat) (c : Collector) :
    (c.poll clock g).1.channels.names = c.channels.names := by
  have ht : (c.tick clock g).1.channels.names = c.channels.names := by
    cases c.ticked g with
    | idle hi => rw [tick_idle hi]
    | took l ch u us hl hp hc hq =>
      rw [tick_took hl hp hc hq,(emit_fields clock ch.container u _).2.2.2]
      exact c.channels.names_take l.channel
    | waited l ch hl hp hc hq hf =>
      rw [tick_waited hl hp hc hq hf]
      rfl
    | left l hl hp hq hf =>
      rw [tick_left hl hp hq hf]
      rfl
  have hr : ((c.tick clock g).1.release g).1.channels.names = (c.tick clock g).1.channels.names := by
    rcases (c.tick clock g).1.release_cases g with hd | ⟨l,-,-,⟨-,hd⟩ | ⟨-,hd⟩⟩ <;> rw [hd]
    exact UsageChannels.names_modify _ l.channel _
  exact hr.trans ht

theorem names_instant (clock : Timestamp) (t : Nat) (c : Collector) :
    (c.instant clock t).1.channels.names = c.channels.names := by
  have h : ∀ gs (c : Collector),(c.pollAll clock gs).1.channels.names = c.channels.names := by
    intro gs
    induction gs with
    | nil => exact fun c => rfl
    | cons g gs ih => exact fun c => (ih _).trans (names_poll clock g c)
  exact h _ _

end Collector

theorem Incident.names_take {δ ρ : Type} (o : Incident δ ρ) (m : Watched δ ρ) :
    (o.take m).collector.channels.names = m.collector.channels.names := by
  cases o with
  | instant t =>
    rw [instant_collector]
    exact m.collector.names_instant m.clock t
  | feed i u => exact UsageChannels.names_offer _ i u
  | disconnect i => exact UsageChannels.names_modify _ i _
  | read => rfl
  | turn => rfl

namespace Core

variable {δ ρ : Type} [ContainerRuntime δ] {k l : Core δ ρ} {meterId n : String} {i : Nat}
  {msg msg' : Message}

theorem Started.names_cases {name : String} {a : Except Passage Unit} (h : Started name k a l) :
    l.collector.channels.names = k.collector.channels.names ∨ ∃ o runtime,
      ContainerRuntime.openUsage name k.collector.channels.next k.runtime = (.done o,runtime) ∧
      l.collector.channels.names = k.collector.channels.names++[o.container.name] := by
  cases h with
  | already => exact .inl rfl
  | opened o runtime _ answer =>
    exact .inr ⟨o,runtime,answer,(Collector.names_collect _ _).trans (k.collector.names_acquire o)⟩
  | unopened => exact .inl rfl

omit [ContainerRuntime δ] in
theorem names_halt (h : k.collector.Sound) (name : String) :
    (k.halt name).2.collector.channels.names = k.collector.channels.names := by
  have hs := h.stop_channels name
  rcases ho : k.collector.stop name with ⟨o,d,es⟩
  rw [ho] at hs
  cases o with
  | channel i =>
    rw [halt_channel ho,← hs]
    exact UsageChannels.names_modify d.channels i _
  | notFound =>
    rw [halt_notFound ho,← hs]
  | lost =>
    rw [halt_lost ho,← hs]

variable [Backend ρ]

theorem pass_backend (hi : i ≠ 6) (msg : Message) (k : Core δ ρ) :
    (k.pass meterId i msg).2.backend = k.backend := by
  unfold pass
  split
  · unfold enter
    split <;> rfl
  · unfold check
    split
    · split <;> rfl
    · rfl
  · exact (resolve_keeps _ k).1.backend
  · exact (start_started _ k).keeps.backend
  · exact (sample_keeps _ k).backend
  · rfl
  · rfl
  · exact absurd rfl hi
  · rfl
  · rfl

theorem names_pass_cases (hs : k.collector.Sound) (meterId : String) (msg : Message) :
    (k.pass meterId 4 msg).2.collector.channels.names = k.collector.channels.names ∨
      ∃ name o runtime,msg.starts name = true ∧
        ContainerRuntime.openUsage name k.collector.channels.next k.runtime = (.done o,runtime) ∧
        (k.pass meterId 4 msg).2.collector.channels.names =
          k.collector.channels.names++[o.container.name] := by
  cases msg with
  | discovery info =>
    rcases (start_started info.name k).names_cases with h | ⟨o,runtime,ho,h⟩
    · exact .inl h
    · exact .inr ⟨info.name,o,runtime,by simp [Message.starts],ho,h⟩
  | change c =>
    rw [pass_sample]
    cases hst : c.state with
    | running =>
      rw [sample_running hst]
      rcases (start_started c.containerName k).names_cases with h | ⟨o,runtime,ho,h⟩
      · exact .inl h
      · exact .inr ⟨c.containerName,o,runtime,by simp [Message.starts,hst],ho,h⟩
    | stopped =>
      rw [sample_stopped hst]
      exact .inl (names_halt hs c.containerName)
    | unknown =>
      rw [sample_unknown hst]
      exact .inl rfl
  | sample x => exact .inl rfl
  | report r => exact .inl rfl
  | devnull => exact .inl rfl

theorem runs_pass_le (meterId : String) (msg : Message) (k : Core δ (Tapped ρ)) :
    Report.runs n (k.pass meterId 6 msg).2.backend.handed ≤
      Report.runs n k.backend.handed+(msg.announces n).toNat := by
  cases msg with
  | report r =>
    show Report.runs n (k.backend.handed++[r]) ≤ _
    simp only [Report.runs,List.countP_append,List.countP_singleton,Message.announces]
    cases r.isRunOf n <;> simp
  | discovery info => exact Nat.le_add_right _ _
  | change c => exact Nat.le_add_right _ _
  | sample x => exact Nat.le_add_right _ _
  | devnull => exact Nat.le_add_right _ _

variable [FaithfulRuntime δ]

theorem opened_pass_le (hv : FaithfulRuntime.Valid k.runtime) (hs : k.collector.Sound) (msg : Message) :
    (k.pass meterId 4 msg).2.collector.channels.opened n ≤
      k.collector.channels.opened n+(msg.announces n).toNat := by
  rw [UsageChannels.opened_eq,UsageChannels.opened_eq]
  rcases names_pass_cases hs meterId msg with h | ⟨name,o,runtime,hst,ho,h⟩ <;> rw [h]
  · exact Nat.le_add_right _ _
  · rw [FaithfulRuntime.openUsage_name hv ho,List.countP_append,List.countP_singleton]
    by_cases hn : name = n
    · rw [Message.announces_of_starts (hn ▸ hst),if_pos (decide_eq_true hn)]
      exact Nat.le_refl _
    · rw [if_neg (by simpa using hn)]
      exact Nat.le_add_right _ _

theorem pass_announces (hv : FaithfulRuntime.Valid k.runtime) (hk : k.registry.Keyed)
    (h : k.pass meterId i msg = (.ok msg',l)) (n : String) : msg'.announces n = msg.announces n := by
  unfold pass at h
  split at h
  · rename_i info
    by_cases ha : (k.registry.register info).1 = .added
    · rw [enter_added ha] at h
      cases h
      simp [Message.announces,Message.starts,StateChange.ofEvent,Event.existed,Event.about,State.ofEvent,
        StateChange.containerName]
    · rw [enter_refused ha] at h
      cases h
  · rename_i c
    cases hn : k.registry.isRegistered c.containerName with
    | false =>
      rw [check_untracked hn] at h
      cases h
    | true =>
      by_cases hs : c.state = .stopped
      · rw [check_stopped hn hs] at h
        cases h
        simp [Message.announces,Message.starts,StateChange.resolvedIn_state,hs]
      · rw [check_tracked hn hs] at h
        cases h
        rfl
  · obtain ⟨c',rfl,hs,hc⟩ := resolve_ok hv hk h
    simp only [Message.announces,Message.starts,hs,hc]
  · rename_i info
    cases hs : (k.start info.name).1 <;> simp [hs,Except.map] at h
    rw [← h.1]
  · rename_i c
    cases hs : (k.sample c).1 <;> simp [hs,Except.map] at h
    rw [← h.1]
  · cases h
    rfl
  · cases h
    rfl
  · cases h
  · cases h
  · cases h
    rfl

end Core

namespace Flight

variable {g : Flight} {j : Nat}

/-- The filter at a place has had the message. -/
def had (j : Nat) (g : Flight) : Bool := decide (j < g.passed ∨ g.passed = j ∧ g.fate ≠ none)

theorem had_land_of_ne (hf : g.fate = none) (hp : g.passed ≠ j) (a : Except Passage Message) :
    (g.land a).had j = g.had j := by
  cases a with
  | ok msg =>
    simp only [had,land,hf]
    congr 1
    simp
    omega
  | error p => simp [had,land,hp]

theorem had_land (hp : g.passed = j) (a : Except Passage Message) : (g.land a).had j = true := by
  cases a with
  | ok msg => simp [had,land,hp]
  | error p => simp [had,land,hp]

theorem le_passed (h : g.had j = true) : j ≤ g.passed := by
  simp only [had,decide_eq_true_eq] at h
  omega

theorem not_had (hf : g.fate = none) (hp : g.passed = j) : g.had j = false := by
  simp [had,hf,hp]

end Flight

section

variable {δ ρ : Type} [ContainerRuntime δ] [Backend ρ]

/-- As long as the meter is as it should be, a count that only the filter at one place adds to, at most one
for a message of a kind that all filters leave messages to be. -/
structure Core.Counted (V : Core (Tallied δ) (Tapped ρ) → Prop) (kind : Message → Bool) (j : Nat)
    (X : Core (Tallied δ) (Tapped ρ) → Nat) : Prop where
  before_last : j < 8
  alike : ∀ (meterId : String) i msg msg' k l,V k → k.pass meterId i msg = (.ok msg',l) →
    kind msg' = kind msg
  there : ∀ (meterId : String) msg k,V k → X (k.pass meterId j msg).2 ≤ X k+(kind msg).toNat
  elsewhere : ∀ (meterId : String) i msg k,i ≠ j → X (k.pass meterId i msg).2 = X k
  around : ∀ (o : Incident δ ρ) (m : Watched δ ρ),X (o.take m).core = X m.core

theorem Core.counted_channels :
    Counted (δ := δ) (ρ := ρ) Core.Orderly (fun _ => true) 4 fun k => k.collector.channels.next where
  before_last := by decide
  alike := fun _ _ _ _ _ _ _ _ => rfl
  there := by
    intro meterId msg k ho
    simp only [UsageChannels.next_eq]
    rcases names_pass_cases ho.sound meterId msg with h | ⟨-,o,-,-,-,h⟩ <;> rw [h]
    · exact Nat.le_add_right _ _
    · rw [List.length_append]
      exact Nat.le_refl _
  elsewhere := by
    intro meterId i msg k hi
    simp only [pass_collector hi]
  around := by
    intro o m
    simp only [UsageChannels.next_eq]
    exact congrArg List.length (o.names_take m)

theorem Core.counted_runs_all (n : String) :
    Counted (δ := δ) (ρ := ρ) Core.Orderly (fun _ => true) 6
      fun k => Report.runs n k.backend.handed where
  before_last := by decide
  alike := fun _ _ _ _ _ _ _ _ => rfl
  there := fun meterId msg k _ =>
    Nat.le_trans (runs_pass_le meterId msg k) (Nat.add_le_add_left (Bool.toNat_le _) _)
  elsewhere := by
    intro meterId i msg k hi
    simp only [pass_backend hi]
  around := by
    intro o m
    exact congrArg (Report.runs n) (o.take_handed m)

section

variable [FaithfulRuntime δ]

theorem Core.counted_opened (n : String) :
    Counted (δ := δ) (ρ := ρ) (fun k => k.Orderly ∧ FaithfulRuntime.Valid k.runtime)
      (Message.announces n) 4 fun k => k.collector.channels.opened n where
  before_last := by decide
  alike := fun _ _ _ _ _ _ hk hp => pass_announces hk.2 hk.1.keyed hp n
  there := fun _ msg _ hk => opened_pass_le hk.2 hk.1.sound msg
  elsewhere := by
    intro meterId i msg k hi
    simp only [pass_collector hi]
  around := by
    intro o m
    simp only [UsageChannels.opened_eq]
    exact congrArg (List.countP _) (o.names_take m)

theorem Core.counted_runs (n : String) :
    Counted (δ := δ) (ρ := ρ) (fun k => k.Orderly ∧ FaithfulRuntime.Valid k.runtime)
      (Message.announces n) 6 fun k => Report.runs n k.backend.handed where
  before_last := by decide
  alike := fun _ _ _ _ _ _ hk hp => pass_announces hk.2 hk.1.keyed hp n
  there := fun meterId msg k _ => runs_pass_le meterId msg k
  elsewhere := (counted_runs_all n).elsewhere
  around := (counted_runs_all n).around

end

namespace Flight

variable {s : ChainSettings} {m : Watched δ ρ} {j : Nat} {V : Core (Tallied δ) (Tapped ρ) → Prop}
  {kind : Message → Bool} {X : Core (Tallied δ) (Tapped ρ) → Nat}

theorem step_alike (s : ChainSettings) (hX : Core.Counted V kind j X) (hv : V m.core) (g : Flight) :
    kind (step (Chain.standard s) g m).1.message = kind g.message := by
  rcases Meter.step_cases s g m with ⟨-,he⟩ | ⟨-,-,he⟩ | ⟨-,-,hland,-⟩
  · rw [he]
  · rw [he]
  · rw [hland]
    rcases hp : m.core.pass s.meterId g.passed g.message with ⟨a,l⟩
    cases a with
    | ok msg => exact hX.alike s.meterId _ _ _ _ _ hv hp
    | error p => rfl

theorem step_counted (hX : Core.Counted V kind j X) (hv : V m.core) (g : Flight) :
    X (step (Chain.standard s) g m).2.core+(kind g.message && g.had j).toNat ≤
      X m.core+(kind g.message && (step (Chain.standard s) g m).1.had j).toNat := by
  rcases Meter.step_cases s g m with ⟨-,he⟩ | ⟨-,hp,he⟩ | ⟨hf,-,hland,hk⟩
  · exact Nat.le_of_eq (by rw [he])
  · have hlast : j < g.passed := Nat.lt_of_lt_of_le hX.before_last hp
    rw [he]
    simp [had,hlast]
  · rw [hland,hk]
    by_cases hp : g.passed = j
    · rw [not_had hf hp,had_land hp,Bool.and_false,Bool.and_true,hp]
      exact hX.there s.meterId g.message m.core hv
    · refine Nat.le_of_eq ?_
      rw [hX.elsewhere s.meterId g.passed g.message m.core hp,had_land_of_ne hf hp]

end Flight

namespace Traffic

variable {s : ChainSettings} {t : Traffic (Watched δ ρ)} {j : Nat} {moves : List (Move δ ρ)}
  {V : Core (Tallied δ) (Tapped ρ) → Prop} {kind : Message → Bool}
  {X : Core (Tallied δ) (Tapped ρ) → Nat}

def visits {σ : Type} (kind : Message → Bool) (j : Nat) (t : Traffic σ) : Nat :=
  t.members.countP fun g => kind g.message && g.had j

def kinds {σ : Type} (kind : Message → Bool) (t : Traffic σ) : List Bool :=
  t.members.map fun g => kind g.message

theorem take_kinds (hX : Core.Counted V kind j X) (hv : V t.state.core) (x : Move δ ρ) :
    kinds kind (x.take s t) = t.kinds kind := by
  cases x with
  | incident o => rfl
  | step i =>
    show kinds kind (t.step _ i) = _
    cases hg : t.members[i]? with
    | none => rw [Team.step_none hg]
    | some g =>
      have hi : (t.kinds kind)[i]? = some (kind g.message) := by
        rw [kinds,List.getElem?_map,hg]
        rfl
      rw [Team.step_some hg,kinds,List.map_set,Flight.step_alike s hX hv g]
      obtain ⟨hlt,he⟩ := List.getElem?_eq_some_iff.mp hi
      rw [← he]
      exact List.set_getElem_self hlt

theorem take_counted (hX : Core.Counted V kind j X) (hv : V t.state.core) (x : Move δ ρ) :
    X (x.take s t).state.core+t.visits kind j ≤ X t.state.core+visits kind j (x.take s t) := by
  cases x with
  | incident o => exact Nat.add_le_add_right (Nat.le_of_eq (hX.around o t.state)) _
  | step i =>
    show X (t.step _ i).state.core+_ ≤ _+visits kind j (t.step _ i)
    cases hg : t.members[i]? with
    | none => exact Nat.le_of_eq (by rw [Team.step_none hg])
    | some g =>
      have hone := Flight.step_counted (s := s) hX hv g
      have hset := Team.countP_set_add (fun g : Flight => kind g.message && g.had j) hg
        (Flight.step (Chain.standard s) g t.state).1
      simp only [Flight.step_alike s hX hv g] at hset
      rw [Team.step_some hg]
      simp only [visits]
      omega

/-- No move of these leaves the meter otherwise than as it should be. -/
def Keep (s : ChainSettings) (V : Core (Tallied δ) (Tapped ρ) → Prop) (moves : List (Move δ ρ)) : Prop :=
  ∀ x ∈ moves,∀ t : Traffic (Watched δ ρ),V t.state.core → V (x.take s t).state.core

/-- A count grows by no more than the messages that the filter has had, and these stay of their kind. -/
theorem run_counted (hX : Core.Counted V kind j X) (hm : Keep s V moves) (hv : V t.state.core) :
    (run s moves t).kinds kind = t.kinds kind ∧
      X (run s moves t).state.core+t.visits kind j ≤ X t.state.core+(run s moves t).visits kind j := by
  induction moves generalizing t with
  | nil => exact ⟨rfl,Nat.le_refl _⟩
  | cons x moves ih =>
    obtain ⟨hkind,hrest⟩ := ih (fun y hy => hm y (List.mem_cons_of_mem _ hy))
      (hm x List.mem_cons_self t hv)
    have hone := take_counted (s := s) hX hv x
    rw [run_cons]
    refine ⟨hkind.trans (take_kinds hX hv x),?_⟩
    omega

theorem keep_orderly (s : ChainSettings) (moves : List (Move δ ρ)) : Keep s Core.Orderly moves := by
  intro x _ t ho
  cases x with
  | step i => exact step_keeps (fun i msg k ho => Core.pass_orderly ho i msg) ho
  | incident o => exact o.take_orderly ho

theorem keep_valid [FaithfulRuntime δ] (s : ChainSettings) (hm : ∀ x ∈ moves,x.Valid) :
    Keep s (fun k => k.Orderly ∧ FaithfulRuntime.Valid k.runtime) moves :=
  fun x hx _ hv => take_orderly (hm x hx) hv.1 hv.2

end Traffic

end

end HostMeter
