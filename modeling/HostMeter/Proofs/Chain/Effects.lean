import HostMeter.Proofs.Chain.Course
import HostMeter.Proofs.Collector.Stop
set_option autoImplicit false

/-! What the steps of a send do to the parts of a core: which parts they leave alone, which names are
collected afterwards, and what becomes of the registry. -/

namespace HostMeter

namespace StateChange

theorem resolvedIn_state (r : Registry) (c : StateChange) :
    (c.resolvedIn r).state = c.state := by
  unfold resolvedIn
  split <;> rfl

theorem resolvedIn_isResolved {r : Registry} {c : StateChange}
    (h : r.isRegistered c.containerName = true) : (c.resolvedIn r).isResolved = true := by
  cases hc : c.isResolved with
  | true => rwa [resolvedIn_of_resolved hc]
  | false =>
    obtain ⟨info,hi⟩ := Registry.get?_of_isRegistered h
    rw [resolvedIn_of_registered hc hi]
    rfl

theorem resolvedIn_containerName {r : Registry} (h : r.Keyed) (c : StateChange) :
    (c.resolvedIn r).containerName = c.containerName := by
  cases hc : c.isResolved with
  | true => rw [resolvedIn_of_resolved hc]
  | false =>
    have hn : c.container = none := by simpa [isResolved] using hc
    cases hi : r.get? c.containerName with
    | none => simp [resolvedIn,hn,hi]
    | some info =>
      rw [resolvedIn_of_registered hc hi,withContainer_containerName]
      exact h _ info hi

end StateChange

namespace Collector

variable {c : Collector} {o : Opening}

theorem acquire_entries (o : Opening) (c : Collector) : (c.acquire o).entries = c.entries := by
  unfold acquire
  split <;> rfl

theorem acquire_loops (o : Opening) (c : Collector) : (c.acquire o).loops = c.loops := by
  unfold acquire
  split <;> rfl

theorem acquire_canWait (h : c.CanWait) (o : Opening) : (c.acquire o).CanWait := by
  unfold acquire
  split <;> exact h

theorem acquire_nextGeneration (o : Opening) (c : Collector) :
    (c.acquire o).nextGeneration = c.nextGeneration := by
  unfold acquire
  split <;> rfl

theorem acquire_name (o : Opening) (c : Collector) :
    (c.acquire o).channels.name c.channels.next = o.container.name := by
  unfold acquire UsageChannels.name
  cases o.abandoned with
  | none => rw [UsageChannels.get?_add_next]; rfl
  | some i =>
    show Option.getD (Option.map _ (UsageChannels.get? (UsageChannels.modify _ i _) _)) "" = _
    rw [UsageChannels.get?_modify,UsageChannels.get?_add_next]
    split <;> rfl

theorem Sound.acquire (h : c.Sound) (o : Opening) : (c.acquire o).Sound :=
  h.congr (acquire_entries o c) (acquire_loops o c) (acquire_nextGeneration o c)

theorem isCollecting_collect (c : Collector) (i : ChannelId) (n : String) :
    (c.collect i).2.1.isCollecting n = (decide (n = c.channels.name i) || c.isCollecting n) := by
  cases hc : c.isCollecting (c.channels.name i) with
  | true =>
    rw [collect_refused hc]
    rw [isCollecting_eq] at hc
    by_cases hn : n = c.channels.name i
    · subst hn
      simp [isCollecting_eq,hc]
    · simp [hn,isCollecting_eq]
  | false =>
    rw [collect_started hc]
    simp only [isCollecting_eq,Table.get?_insert]
    split <;> rename_i hn <;> simp [hn]

theorem isCollecting_acquire_collect (c : Collector) (o : Opening) (n : String) :
    ((c.acquire o).collect c.channels.next).2.1.isCollecting n =
      (decide (n = o.container.name) || c.isCollecting n) := by
  rw [isCollecting_collect,acquire_name,isCollecting_eq,acquire_entries,isCollecting_eq]

end Collector

namespace Core

variable {δ ρ : Type} {k l : Core δ ρ} {c : StateChange} {name n : String}

/-- Sampling and looking up leave the registry, the backend and the clock alone. -/
structure Keeps (k l : Core δ ρ) : Prop where
  registry : l.registry = k.registry
  backend : l.backend = k.backend
  clock : l.clock = k.clock

theorem Keeps.refl (k : Core δ ρ) : k.Keeps k := ⟨rfl,rfl,rfl⟩

theorem halt_keeps (name : String) (k : Core δ ρ) : k.Keeps (k.halt name).2 := by
  unfold halt
  split <;> exact ⟨rfl,rfl,rfl⟩

theorem halt_runtime (name : String) (k : Core δ ρ) : (k.halt name).2.runtime = k.runtime := by
  unfold halt
  split <;> rfl

theorem halt_collector (name : String) (k : Core δ ρ) :
    ∃ channels,(k.halt name).2.collector = { (k.collector.stop name).2.1 with channels } := by
  rcases h : k.collector.stop name with ⟨o,d,es⟩
  cases o with
  | channel i =>
    rw [halt_channel h]
    exact ⟨_,rfl⟩
  | notFound =>
    rw [halt_notFound h]
    exact ⟨d.channels,rfl⟩
  | lost =>
    rw [halt_lost h]
    exact ⟨d.channels,rfl⟩

theorem halt_sound (h : k.collector.Sound) (name : String) : (k.halt name).2.collector.Sound := by
  obtain ⟨channels,hd⟩ := halt_collector name k
  rw [hd]
  exact (h.stop name).1.congr rfl rfl rfl

theorem halt_entries (h : k.collector.Sound) (name : String) :
    (k.halt name).2.collector.entries = k.collector.entries.erase name := by
  obtain ⟨channels,hd⟩ := halt_collector name k
  rw [hd]
  exact (h.stop name).2

/-- A stopped name is not collected any more, even when its loop had crashed. -/
theorem isCollecting_halt (h : k.collector.Sound) (name n : String) :
    (k.halt name).2.collector.isCollecting n =
      (decide (n ≠ name) && k.collector.isCollecting n) := by
  rw [Collector.isCollecting_eq,halt_entries h,Table.get?_erase,Collector.isCollecting_eq]
  split <;> rename_i hn <;> simp [hn]

theorem halt_unharmed (h : k.collector.Sound) (hw : k.collector.CanWait)
    (hu : k.collector.Unharmed) (name : String) :
    (k.halt name).2.collector.CanWait ∧ (k.halt name).2.collector.Unharmed := by
  obtain ⟨channels,hd⟩ := halt_collector name k
  rw [hd]
  exact h.stop_unharmed hw hu name

theorem halt_ok (h : k.collector.Sound) (hu : k.collector.Unharmed) (name : String) :
    (k.halt name).1 = .ok () := by
  have hs := h.stop_ne_lost hu name
  rcases ho : k.collector.stop name with ⟨o,d,es⟩
  rw [ho] at hs
  cases o with
  | channel i => rw [halt_channel ho]
  | notFound => rw [halt_notFound ho]
  | lost => exact absurd rfl hs

section

variable [ContainerRuntime δ]

inductive Started (name : String) (k : Core δ ρ) : Except Passage Unit → Core δ ρ → Prop
  | already (collecting : k.collector.isCollecting name = true) : Started name k (.ok ()) k
  | opened (o : Opening) (runtime : δ) (fresh : k.collector.isCollecting name = false)
    (answer : ContainerRuntime.openUsage name k.collector.channels.next k.runtime =
      (.done o,runtime)) :
    Started name k (.ok ())
      { k with runtime, collector := ((k.collector.acquire o).collect k.collector.channels.next).2.1 }
  | unopened (p : Passage) (a : Outcome RuntimeError Opening) (runtime : δ)
    (fresh : k.collector.isCollecting name = false)
    (answer : ContainerRuntime.openUsage name k.collector.channels.next k.runtime = (a,runtime))
    (nothing : ∀ o,a ≠ .done o) : Started name k (.error p) { k with runtime }

theorem start_started (name : String) (k : Core δ ρ) :
    Started name k (k.start name).1 (k.start name).2 := by
  cases hc : k.collector.isCollecting name with
  | true =>
    rw [start_collecting hc]
    exact .already hc
  | false =>
    rcases h : ContainerRuntime.openUsage name k.collector.channels.next k.runtime with ⟨a,runtime⟩
    cases a with
    | done o =>
      rw [start_done hc h]
      exact .opened o runtime hc h
    | failed e =>
      rw [start_failed hc h]
      exact .unopened _ _ runtime hc h (by simp)
    | crashed =>
      rw [start_crashed hc h]
      exact .unopened _ _ runtime hc h (by simp)

namespace Started

variable {a : Except Passage Unit}

theorem of_eq (h : k.start name = (a,l)) : Started name k a l := by
  have hs := start_started name k
  rwa [h] at hs

theorem keeps (h : Started name k a l) : k.Keeps l := by
  cases h <;> exact ⟨rfl,rfl,rfl⟩

theorem sound (h : Started name k a l) (hs : k.collector.Sound) : l.collector.Sound := by
  cases h with
  | already => exact hs
  | opened o => exact (hs.acquire o).collect _
  | unopened => exact hs

theorem unharmed (h : Started name k a l) (hw : k.collector.CanWait) (hu : k.collector.Unharmed) :
    l.collector.CanWait ∧ l.collector.Unharmed := by
  cases h with
  | already => exact ⟨hw,hu⟩
  | opened o =>
    refine Collector.collect_unharmed (Collector.acquire_canWait hw o) ?_ _
    intro l hl
    rw [Collector.acquire_loops] at hl
    exact hu l hl
  | unopened => exact ⟨hw,hu⟩

theorem collector_of_error {p : Passage} (h : Started name k (.error p) l) :
    l.collector = k.collector := by
  cases h
  rfl

end Started

variable [FaithfulRuntime δ] {a : Except Passage Unit}

theorem Started.valid (h : Started name k a l) (hv : FaithfulRuntime.Valid k.runtime) :
    FaithfulRuntime.Valid l.runtime := by
  have ho : ∀ i,FaithfulRuntime.Valid (ContainerRuntime.openUsage name i k.runtime).2 :=
    fun i => FaithfulRuntime.openUsage_valid hv
  cases h with
  | already => exact hv
  | opened o runtime _ answer =>
    have := ho k.collector.channels.next
    rwa [answer] at this
  | unopened p a runtime _ answer =>
    have := ho k.collector.channels.next
    rwa [answer] at this

theorem Started.isCollecting (h : Started name k (.ok ()) l)
    (hv : FaithfulRuntime.Valid k.runtime) (n : String) :
    l.collector.isCollecting n = (decide (n = name) || k.collector.isCollecting n) := by
  cases h with
  | already hc =>
    by_cases hn : n = name
    · subst hn
      simpa using hc
    · simp [hn]
  | opened o runtime _ answer =>
    rw [Collector.isCollecting_acquire_collect,FaithfulRuntime.openUsage_name hv answer]

theorem collecting_of_start (hv : FaithfulRuntime.Valid k.runtime) {n : String}
    (h : (k.start name).2.collector.isCollecting n = true) :
    k.collector.isCollecting n = true ∨ n = name := by
  rcases ho : k.start name with ⟨a,l⟩
  have hs := Started.of_eq ho
  rw [ho] at h
  cases a with
  | error p =>
    have hc : l.collector = k.collector := hs.collector_of_error
    rw [hc] at h
    exact .inl h
  | ok u =>
    rw [hs.isCollecting hv n,Bool.or_eq_true,decide_eq_true_eq] at h
    exact h.symm

end

section

variable [ContainerRuntime δ]

theorem sample_keeps (c : StateChange) (k : Core δ ρ) : k.Keeps (k.sample c).2 := by
  unfold sample
  cases c.state with
  | running => exact (start_started c.containerName k).keeps
  | stopped => exact halt_keeps c.containerName k
  | unknown => exact .refl k

theorem sample_sound (h : k.collector.Sound) (c : StateChange) :
    (k.sample c).2.collector.Sound := by
  unfold sample
  cases c.state with
  | running => exact (start_started c.containerName k).sound h
  | stopped => exact halt_sound h c.containerName
  | unknown => exact h

theorem sample_unharmed (h : k.collector.Sound) (hw : k.collector.CanWait)
    (hu : k.collector.Unharmed) (c : StateChange) :
    (k.sample c).2.collector.CanWait ∧ (k.sample c).2.collector.Unharmed := by
  unfold sample
  cases c.state with
  | running => exact (start_started c.containerName k).unharmed hw hu
  | stopped => exact halt_unharmed h hw hu c.containerName
  | unknown => exact ⟨hw,hu⟩

theorem sample_valid [FaithfulRuntime δ] (h : FaithfulRuntime.Valid k.runtime) (c : StateChange) :
    FaithfulRuntime.Valid (k.sample c).2.runtime := by
  unfold sample
  cases c.state with
  | running => exact (start_started c.containerName k).valid h
  | stopped =>
    rw [halt_runtime]
    exact h
  | unknown => exact h

variable [Backend ρ]

theorem follow_sampled (meterId : String) (c : StateChange) (k : Core δ ρ) :
    ∃ backend,(k.follow meterId c).2 = { (k.sample c).2 with backend } := by
  rcases h : k.sample c with ⟨a,l⟩
  cases a with
  | error p =>
    rw [follow_error h]
    exact ⟨l.backend,rfl⟩
  | ok u =>
    rw [follow_ok h]
    exact ⟨_,rfl⟩

theorem follow_registry (meterId : String) (c : StateChange) (k : Core δ ρ) :
    (k.follow meterId c).2.registry = k.registry := by
  obtain ⟨backend,hf⟩ := follow_sampled meterId c k
  rw [hf]
  exact (sample_keeps c k).registry

theorem follow_collector (meterId : String) (c : StateChange) (k : Core δ ρ) :
    (k.follow meterId c).2.collector = (k.sample c).2.collector := by
  obtain ⟨backend,hf⟩ := follow_sampled meterId c k
  rw [hf]

theorem follow_runtime (meterId : String) (c : StateChange) (k : Core δ ρ) :
    (k.follow meterId c).2.runtime = (k.sample c).2.runtime := by
  obtain ⟨backend,hf⟩ := follow_sampled meterId c k
  rw [hf]

end

section

variable [ContainerRuntime δ]

inductive Looked (c : StateChange) (k : Core δ ρ) : Except Passage StateChange → Core δ ρ → Prop
  | resolved (has : c.isResolved = true) : Looked c k (.ok c) k
  | described (info : Container) (runtime : δ) (lacks : c.isResolved = false)
    (answer : ContainerRuntime.describe c.containerName k.runtime = (.done info,runtime)) :
    Looked c k (.ok (c.withContainer info)) { k with runtime }
  | missed (n : String) (runtime : δ) (lacks : c.isResolved = false)
    (answer : ContainerRuntime.describe c.containerName k.runtime =
      (.failed (.notFound n),runtime)) : Looked c k (.ok c) { k with runtime }
  | refused (p : Passage) (a : Outcome RuntimeError Container) (runtime : δ)
    (lacks : c.isResolved = false)
    (answer : ContainerRuntime.describe c.containerName k.runtime = (a,runtime))
    (nothing : ∀ info,a ≠ .done info) : Looked c k (.error p) { k with runtime }

theorem look_looked (c : StateChange) (k : Core δ ρ) : Looked c k (k.look c).1 (k.look c).2 := by
  cases hc : c.isResolved with
  | true =>
    rw [look_resolved hc]
    exact .resolved hc
  | false =>
    rcases h : ContainerRuntime.describe c.containerName k.runtime with ⟨a,runtime⟩
    cases a with
    | done info =>
      rw [look_done hc h]
      exact .described info runtime hc h
    | failed e =>
      by_cases he : ∃ n,e = .notFound n
      · obtain ⟨n,rfl⟩ := he
        rw [look_notFound hc h]
        exact .missed n runtime hc h
      · rw [look_failed hc h (fun n hn => he ⟨n,hn⟩)]
        exact .refused _ _ runtime hc h (by simp)
    | crashed =>
      rw [look_crashed hc h]
      exact .refused _ _ runtime hc h (by simp)

namespace Looked

variable {a : Except Passage StateChange} {c' : StateChange}

theorem of_eq (h : k.look c = (a,l)) : Looked c k a l := by
  have hl := look_looked c k
  rwa [h] at hl

theorem keeps (h : Looked c k a l) : k.Keeps l := by
  cases h <;> exact ⟨rfl,rfl,rfl⟩

theorem collector (h : Looked c k a l) : l.collector = k.collector := by
  cases h <;> rfl

theorem state (h : Looked c k (.ok c') l) : c'.state = c.state := by
  cases h <;> rfl

theorem valid [FaithfulRuntime δ] (h : Looked c k a l) (hv : FaithfulRuntime.Valid k.runtime) :
    FaithfulRuntime.Valid l.runtime := by
  have hd : FaithfulRuntime.Valid (ContainerRuntime.describe c.containerName k.runtime).2 :=
    FaithfulRuntime.describe_valid hv
  cases h with
  | resolved => exact hv
  | described info runtime _ answer => rwa [answer] at hd
  | missed n runtime _ answer => rwa [answer] at hd
  | refused p a runtime _ answer => rwa [answer] at hd

theorem containerName [FaithfulRuntime δ] (h : Looked c k (.ok c') l)
    (hv : FaithfulRuntime.Valid k.runtime) : c'.containerName = c.containerName := by
  cases h with
  | resolved => rfl
  | described info runtime _ answer => exact FaithfulRuntime.describe_name hv answer
  | missed => rfl

end Looked

end

section

variable [ContainerRuntime δ] [Backend ρ] {meterId : String}

theorem change_registry (meterId : String) (c : StateChange) (k : Core δ ρ) :
    (k.change meterId c).2.registry = k.registry.heed (.change c) := by
  cases hn : k.registry.isRegistered c.containerName with
  | false =>
    rw [change_untracked hn]
    simp only [Registry.heed,Registry.drop_of_not_isRegistered hn,ite_self]
  | true =>
    cases hs : c.state with
    | running =>
      rw [change_running hn hs]
      simp only [Registry.heed,hs]
      rcases h : k.look c with ⟨a,l⟩
      have hl := (Looked.of_eq h).keeps.registry
      cases a with
      | error p => exact hl
      | ok c' => exact (follow_registry meterId c' l).trans hl
    | stopped =>
      rw [change_stopped hn hs,follow_registry]
      simp only [Registry.heed,hs,if_true]
    | unknown =>
      rw [change_unknown hn hs,follow_registry]
      simp only [Registry.heed,hs]
      rfl

/-- The registry follows the messages, whatever the runtime and the backend answer. -/
theorem send_registry (meterId : String) (msg : Message) (k : Core δ ρ) :
    (k.send meterId msg).2.registry = k.registry.heed msg := by
  cases msg with
  | discovery info =>
    show (k.discover meterId info).2.registry = (k.registry.register info).2
    by_cases h : (k.registry.register info).1 = .added
    · rw [discover_added h,follow_registry]
    · rw [discover_refused h,Registry.register_snd_of_ne h]
  | change c => exact change_registry meterId c k
  | sample x => rfl
  | report r => rfl
  | devnull => rfl

theorem send_keeps {P : Core δ ρ → Prop}
    (hfollow : ∀ c k,P k → P (follow meterId c k).2) (hlook : ∀ c k,P k → P (look c k).2)
    (hregistry : ∀ r k,P k → P { k with registry := r })
    (hdeliver : ∀ r k,P k → P (deliver r k).2) (msg : Message) (h : P k) :
    P (k.send meterId msg).2 := by
  cases msg with
  | discovery info =>
    show P (k.discover meterId info).2
    by_cases hr : (k.registry.register info).1 = .added
    · rw [discover_added hr]
      exact hfollow _ _ (hregistry _ k h)
    · rw [discover_refused hr]
      exact h
  | change c =>
    show P (k.change meterId c).2
    cases hn : k.registry.isRegistered c.containerName with
    | false =>
      rw [change_untracked hn]
      exact h
    | true =>
      cases hs : c.state with
      | running =>
        have hl := hlook c k h
        rw [change_running hn hs]
        rcases ho : k.look c with ⟨a,l⟩
        rw [ho] at hl
        cases a with
        | error p => exact hl
        | ok c' => exact hfollow c' l hl
      | stopped =>
        rw [change_stopped hn hs]
        exact hfollow _ _ (hregistry _ k h)
      | unknown =>
        rw [change_unknown hn hs]
        exact hfollow c k h
  | sample x => exact hdeliver _ k h
  | report r => exact hdeliver r k h
  | devnull => exact h

theorem send_sound (h : k.collector.Sound) (msg : Message) :
    (k.send meterId msg).2.collector.Sound := by
  refine send_keeps (P := fun k => k.collector.Sound) ?_ ?_ (fun _ _ h => h) (fun _ _ h => h) msg h
  · intro c k hk
    rw [follow_collector]
    exact sample_sound hk c
  · intro c k hk
    rw [(look_looked c k).collector]
    exact hk

theorem send_unharmed (meterId : String) (h : k.collector.Sound) (hw : k.collector.CanWait)
    (hu : k.collector.Unharmed) (msg : Message) :
    (k.send meterId msg).2.collector.CanWait ∧ (k.send meterId msg).2.collector.Unharmed := by
  refine And.right (send_keeps (P := fun k => k.collector.Sound ∧ k.collector.CanWait ∧
    k.collector.Unharmed) ?_ ?_ (fun _ _ h => h) (fun _ _ h => h) msg ⟨h,hw,hu⟩)
  · intro c k ⟨hs,hw,hu⟩
    rw [follow_collector]
    exact ⟨sample_sound hs c,sample_unharmed hs hw hu c⟩
  · intro c k hk
    rw [(look_looked c k).collector]
    exact hk

theorem send_valid [FaithfulRuntime δ] (h : FaithfulRuntime.Valid k.runtime) (msg : Message) :
    FaithfulRuntime.Valid (k.send meterId msg).2.runtime := by
  refine send_keeps (P := fun k => FaithfulRuntime.Valid k.runtime) ?_ ?_ (fun _ _ h => h)
    (fun _ _ h => h) msg h
  · intro c k hk
    rw [follow_runtime]
    exact sample_valid hk c
  · intro c k hk
    exact (look_looked c k).valid hk

end

end Core

end HostMeter
