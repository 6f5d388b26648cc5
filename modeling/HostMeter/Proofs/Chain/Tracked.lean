import HostMeter.Proofs.Chain.Run
import HostMeter.Proofs.Runtime.Faithful
set_option autoImplicit false

/-! What is collected is tracked, after every send and whatever fails; and as long as nothing fails,
what is tracked is collected. -/

namespace HostMeter

namespace Core

variable {δ ρ : Type} {k l : Core δ ρ} {c : StateChange}

def Tracks (k : Core δ ρ) : Prop :=
  ∀ n,k.collector.isCollecting n = true → k.registry.isRegistered n = true

def Collects (k : Core δ ρ) : Prop :=
  ∀ n,k.registry.isRegistered n = true → k.collector.isCollecting n = true

theorem Looked.tracks [ContainerRuntime δ] {a : Except Passage StateChange} (h : Looked c k a l)
    (ht : k.Tracks) : l.Tracks := by
  intro n hn
  rw [h.collector] at hn
  rw [h.keeps.registry]
  exact ht n hn

theorem Looked.collects [ContainerRuntime δ] {a : Except Passage StateChange} (h : Looked c k a l)
    (hc : k.Collects) : l.Collects := by
  intro n hn
  rw [h.keeps.registry] at hn
  rw [h.collector]
  exact hc n hn

section

variable [ContainerRuntime δ] [Backend ρ] [FaithfulRuntime δ] {meterId : String}

/-- Following a change: a start needs its name tracked, a stop may find its name dropped already. -/
theorem follow_tracks (hv : FaithfulRuntime.Valid k.runtime) (hs : k.collector.Sound)
    (hc : c.state = .running → k.registry.isRegistered c.containerName = true)
    (ht : ∀ n,k.collector.isCollecting n = true →
      k.registry.isRegistered n = true ∨ c.state = .stopped ∧ n = c.containerName) :
    (k.follow meterId c).2.Tracks := by
  intro n hn
  rw [follow_collector] at hn
  rw [follow_registry]
  cases hstate : c.state with
  | running =>
    rw [sample_running hstate] at hn
    rcases collecting_of_start hv hn with hn | rfl
    · rcases ht n hn with h | ⟨h,-⟩
      · exact h
      · rw [hstate] at h
        cases h
    · exact hc hstate
  | stopped =>
    rw [sample_stopped hstate,isCollecting_halt hs,Bool.and_eq_true,decide_eq_true_eq] at hn
    rcases ht n hn.2 with h | ⟨-,h⟩
    · exact h
    · exact absurd h hn.1
  | unknown =>
    rw [sample_unknown hstate] at hn
    rcases ht n hn with h | ⟨h,-⟩
    · exact h
    · rw [hstate] at h
      cases h

theorem change_tracks (hv : FaithfulRuntime.Valid k.runtime) (hs : k.collector.Sound)
    (hk : k.registry.Keyed) (ht : k.Tracks) (c : StateChange) : (k.change meterId c).2.Tracks := by
  cases hn : k.registry.isRegistered c.containerName with
  | false =>
    rw [change_untracked hn]
    exact ht
  | true =>
    cases hstate : c.state with
    | running =>
      rw [change_running hn hstate]
      rcases ho : k.look c with ⟨a,l⟩
      have hl := Looked.of_eq ho
      cases a with
      | error p => exact hl.tracks ht
      | ok c' =>
        refine follow_tracks (hl.valid hv) ?_ ?_ (fun n hm => .inl (hl.tracks ht n hm))
        · rw [hl.collector]
          exact hs
        · intro _
          rw [hl.keeps.registry,hl.containerName hv]
          exact hn
    | stopped =>
      rw [change_stopped hn hstate]
      refine follow_tracks (k := { k with registry := (k.registry.drop c.containerName).2 })
        hv hs ?_ ?_
      · intro h
        rw [StateChange.resolvedIn_state,hstate] at h
        cases h
      · intro n hm
        show (k.registry.drop c.containerName).2.isRegistered n = true ∨ _
        rw [Registry.isRegistered_drop,StateChange.resolvedIn_containerName hk,
          StateChange.resolvedIn_state]
        by_cases hc : n = c.containerName
        · exact .inr ⟨hstate,hc⟩
        · simp [hc,ht n hm]
    | unknown =>
      rw [change_unknown hn hstate]
      apply follow_tracks hv hs
      · intro h
        rw [hstate] at h
        cases h
      · exact fun n hm => .inl (ht n hm)

theorem discover_tracks (hv : FaithfulRuntime.Valid k.runtime) (hs : k.collector.Sound)
    (ht : k.Tracks) (info : Container) : (k.discover meterId info).2.Tracks := by
  by_cases h : (k.registry.register info).1 = .added
  · rw [discover_added h]
    refine follow_tracks (k := { k with registry := (k.registry.register info).2 }) hv hs ?_ ?_
    · intro _
      show (k.registry.register info).2.isRegistered info.name = true
      rw [Registry.isRegistered_register]
      simp [h]
    · intro n hm
      show (k.registry.register info).2.isRegistered n = true ∨ _
      rw [Registry.isRegistered_register,ht n hm,Bool.or_true]
      exact .inl rfl
  · rw [discover_refused h]
    exact ht

theorem send_tracks (hv : FaithfulRuntime.Valid k.runtime) (hs : k.collector.Sound)
    (hk : k.registry.Keyed) (ht : k.Tracks) (msg : Message) : (k.send meterId msg).2.Tracks := by
  cases msg with
  | discovery info => exact discover_tracks hv hs ht info
  | change c => exact change_tracks hv hs hk ht c
  | sample x => exact ht
  | report r => exact ht
  | devnull => exact ht

end

section

variable [ContainerRuntime δ] {k l : Core (Tallied δ) ρ}

theorem Started.unanswered {name : String} {a : Except Passage Unit} (h : Started name k a l) :
    k.runtime.unanswered ≤ l.runtime.unanswered ∧
      (l.runtime.unanswered = k.runtime.unanswered → a = .ok ()) := by
  have hle := Tallied.unanswered_le_call
    (ContainerRuntime.openUsage name k.collector.channels.next) k.runtime
  rw [← Tallied.openUsage_eq] at hle
  cases h with
  | already => exact ⟨Nat.le_refl _,fun _ => rfl⟩
  | opened o runtime _ answer =>
    rw [answer] at hle
    exact ⟨hle,fun _ => rfl⟩
  | unopened p a runtime _ answer nothing =>
    rw [answer] at hle
    refine ⟨hle,fun hu => ?_⟩
    have hd := Tallied.call_answered (t := k.runtime)
      (f := ContainerRuntime.openUsage name k.collector.channels.next)
    rw [← Tallied.openUsage_eq,answer] at hd
    obtain ⟨o,ho⟩ := hd hu
    exact absurd ho (nothing o)

theorem Looked.unanswered {a : Except Passage StateChange} (h : Looked c k a l) :
    k.runtime.unanswered ≤ l.runtime.unanswered ∧
      (l.runtime.unanswered = k.runtime.unanswered → ∃ c',a = .ok c') := by
  have hle := Tallied.unanswered_le_call (ContainerRuntime.describe c.containerName) k.runtime
  rw [← Tallied.describe_eq] at hle
  cases h with
  | resolved => exact ⟨Nat.le_refl _,fun _ => ⟨c,rfl⟩⟩
  | described info runtime _ answer =>
    rw [answer] at hle
    exact ⟨hle,fun _ => ⟨_,rfl⟩⟩
  | missed n runtime _ answer =>
    rw [answer] at hle
    exact ⟨hle,fun _ => ⟨c,rfl⟩⟩
  | refused p a runtime _ answer nothing =>
    rw [answer] at hle
    refine ⟨hle,fun hu => ?_⟩
    have hd := Tallied.call_answered (t := k.runtime)
      (f := ContainerRuntime.describe c.containerName)
    rw [← Tallied.describe_eq,answer] at hd
    obtain ⟨info,hi⟩ := hd hu
    exact absurd hi (nothing info)

variable [Backend ρ] {meterId : String}

theorem follow_unanswered (meterId : String) (c : StateChange) (k : Core (Tallied δ) ρ) :
    k.runtime.unanswered ≤ (k.follow meterId c).2.runtime.unanswered := by
  rw [follow_runtime]
  unfold sample
  cases c.state with
  | running => exact (start_started c.containerName k).unanswered.1
  | stopped =>
    exact Nat.le_of_eq (congrArg Tallied.unanswered (halt_runtime c.containerName k).symm)
  | unknown => exact Nat.le_refl _

variable [FaithfulRuntime δ]

/-- Following a change with every call answered: a start may add its name, a stop finds its own
dropped. -/
theorem follow_collects (hv : FaithfulRuntime.Valid k.runtime) (hs : k.collector.Sound)
    (hu : (k.follow meterId c).2.runtime.unanswered = k.runtime.unanswered)
    (hstop : c.state = .stopped → k.registry.isRegistered c.containerName = false)
    (hc : ∀ n,k.registry.isRegistered n = true →
      k.collector.isCollecting n = true ∨ c.state = .running ∧ n = c.containerName) :
    (k.follow meterId c).2.Collects := by
  intro n hn
  rw [follow_registry] at hn
  rw [follow_runtime] at hu
  rw [follow_collector]
  cases hstate : c.state with
  | running =>
    rw [sample_running hstate] at hu ⊢
    rcases ho : k.start c.containerName with ⟨a,l⟩
    have hst := Started.of_eq ho
    rw [ho] at hu
    have ha : a = .ok () := hst.unanswered.2 hu
    subst ha
    rw [hst.isCollecting hv n,Bool.or_eq_true,decide_eq_true_eq]
    rcases hc n hn with h | ⟨-,h⟩
    · exact .inr h
    · exact .inl h
  | stopped =>
    rw [sample_stopped hstate,isCollecting_halt hs,Bool.and_eq_true,decide_eq_true_eq]
    constructor
    · rintro rfl
      rw [hstop hstate] at hn
      cases hn
    · rcases hc n hn with h | ⟨h,-⟩
      · exact h
      · rw [hstate] at h
        cases h
  | unknown =>
    rw [sample_unknown hstate]
    rcases hc n hn with h | ⟨h,-⟩
    · exact h
    · rw [hstate] at h
      cases h

theorem change_collects (hv : FaithfulRuntime.Valid k.runtime) (hs : k.collector.Sound)
    (hk : k.registry.Keyed) (hc : k.Collects)
    (hu : (k.change meterId c).2.runtime.unanswered = k.runtime.unanswered) :
    (k.change meterId c).2.Collects := by
  cases hn : k.registry.isRegistered c.containerName with
  | false =>
    rw [change_untracked hn]
    exact hc
  | true =>
    cases hstate : c.state with
    | running =>
      rw [change_running hn hstate] at hu ⊢
      rcases ho : k.look c with ⟨a,l⟩
      rw [ho] at hu
      have hl := Looked.of_eq ho
      obtain ⟨hle,hdone⟩ := hl.unanswered
      cases a with
      | error p =>
        obtain ⟨c',hc'⟩ := hdone hu
        cases hc'
      | ok c' =>
        have hu : (l.follow meterId c').2.runtime.unanswered = k.runtime.unanswered := hu
        have hle' := follow_unanswered meterId c' l
        refine follow_collects (hl.valid hv) ?_ (by omega) ?_
          (fun n hm => .inl (hl.collects hc n hm))
        · rw [hl.collector]
          exact hs
        · intro h
          rw [hl.state,hstate] at h
          cases h
    | stopped =>
      rw [change_stopped hn hstate] at hu ⊢
      refine follow_collects (k := { k with registry := (k.registry.drop c.containerName).2 })
        hv hs hu ?_ ?_
      · intro _
        show (k.registry.drop c.containerName).2.isRegistered _ = false
        rw [StateChange.resolvedIn_containerName hk,Registry.isRegistered_drop]
        simp
      · intro n hm
        have hm : (k.registry.drop c.containerName).2.isRegistered n = true := hm
        rw [Registry.isRegistered_drop,Bool.and_eq_true] at hm
        exact .inl (hc n hm.2)
    | unknown =>
      rw [change_unknown hn hstate] at hu ⊢
      refine follow_collects hv hs hu ?_ (fun n hm => .inl (hc n hm))
      intro h
      rw [hstate] at h
      cases h

theorem discover_collects (hv : FaithfulRuntime.Valid k.runtime) (hs : k.collector.Sound)
    (hc : k.Collects) {info : Container}
    (hu : (k.discover meterId info).2.runtime.unanswered = k.runtime.unanswered) :
    (k.discover meterId info).2.Collects := by
  by_cases h : (k.registry.register info).1 = .added
  · rw [discover_added h] at hu ⊢
    refine follow_collects (k := { k with registry := (k.registry.register info).2 }) hv hs hu
      (fun h => by cases h) ?_
    intro n hm
    have hm : (k.registry.register info).2.isRegistered n = true := hm
    rw [Registry.isRegistered_register,Bool.or_eq_true,decide_eq_true_eq] at hm
    rcases hm with ⟨-,hm⟩ | hm
    · exact .inr ⟨rfl,hm⟩
    · exact .inl (hc n hm)
  · rw [discover_refused h]
    exact hc

theorem send_collects (hv : FaithfulRuntime.Valid k.runtime) (hs : k.collector.Sound)
    (hk : k.registry.Keyed) (hc : k.Collects) {msg : Message}
    (hu : (k.send meterId msg).2.runtime.unanswered = k.runtime.unanswered) :
    (k.send meterId msg).2.Collects := by
  cases msg with
  | discovery info => exact discover_collects hv hs hc hu
  | change c => exact change_collects hv hs hk hc hu
  | sample x => exact hc
  | report r => exact hc
  | devnull => exact hc

end

end Core

variable {δ ρ : Type} [ContainerRuntime δ] [FaithfulRuntime δ]

/-- What holds between the acts of a run. -/
structure Core.Steady (k : Core δ ρ) : Prop extends k.Orderly where
  valid : FaithfulRuntime.Valid k.runtime
  tracks : k.Tracks

theorem Core.Steady.enlist {k : Core δ ρ} (h : k.Steady) (e : Event) : (k.enlist e).2.Steady where
  toOrderly := h.toOrderly.enlist e
  valid := by
    rw [(enlist_keeps e k).2.2.2]
    exact FaithfulRuntime.describe_valid h.valid
  tracks := by
    intro n hn
    rw [(enlist_keeps e k).1] at hn
    have hr := h.tracks n hn
    rw [enlist_registry]
    split
    · rw [Registry.isRegistered_register,hr,Bool.or_true]
    · exact hr

theorem Incident.take_steady {m : Watched δ ρ} (h : m.core.Steady) {o : Incident δ ρ}
    (ho : o.Valid) : (o.take m).core.Steady where
  toOrderly := o.take_orderly h.toOrderly
  valid := take_valid h.valid ho
  tracks := by
    intro n hn
    show (o.take m).registry.isRegistered n = true
    rw [o.take_registry]
    exact h.tracks n (o.isCollecting_take h.sound n hn)

theorem Watched.Blank.steady {m : Watched δ ρ} (h : m.Blank)
    (hv : FaithfulRuntime.Valid m.runtime) : m.core.Steady where
  toOrderly := h.orderly
  valid := hv
  tracks := by
    intro n hn
    have hn : m.collector.isCollecting n = true := hn
    simp [Collector.isCollecting_eq,h.entries] at hn

variable [Backend ρ]

theorem Core.Steady.send {k : Core δ ρ} (h : k.Steady) (meterId : String) (msg : Message) :
    (k.send meterId msg).2.Steady where
  toOrderly := h.toOrderly.send meterId msg
  valid := send_valid h.valid msg
  tracks := send_tracks h.valid h.sound h.keyed h.tracks msg

namespace Act

def Valid : Act δ ρ → Prop
  | .incident o => o.Valid
  | _ => True

/-- A message is sent with every call of the runtime answered, or something goes on around; no loop has
lost the producer of its channel. -/
def Smooth (s : ChainSettings) (a : Act δ ρ) (m : Watched δ ρ) : Prop :=
  (∀ e,a ≠ .enlist e) ∧ m.collector.Fed ∧
    (a.take s m).runtime.unanswered = m.runtime.unanswered

theorem take_steady {s : ChainSettings} {m : Watched δ ρ} (h : m.core.Steady) {a : Act δ ρ}
    (ha : a.Valid) : (a.take s m).core.Steady := by
  cases a with
  | send msg =>
    rw [core_send]
    exact h.send s.meterId msg
  | enlist e =>
    rw [core_enlist]
    exact h.enlist e
  | incident o => exact Incident.take_steady h ha

theorem take_collects {s : ChainSettings} {m : Watched δ ρ} (h : m.core.Steady)
    (hc : m.core.Collects) {a : Act δ ρ} (ha : a.Smooth s m) : (a.take s m).core.Collects := by
  cases a with
  | send msg =>
    have hu := ha.2.2
    rw [← Meter.core_runtime,core_send] at hu
    rw [core_send]
    exact Core.send_collects h.valid h.sound h.keyed hc hu
  | enlist e => exact absurd rfl (ha.1 e)
  | incident o =>
    intro n hn
    have hn : (o.take m).registry.isRegistered n = true := hn
    rw [o.take_registry] at hn
    show (o.take m).collector.isCollecting n = true
    rw [Collector.isCollecting_eq,o.take_entries h.sound ha.2.1]
    exact hc n hn

end Act

namespace Watched

variable {s : ChainSettings} {acts : List (Act δ ρ)} {m : Watched δ ρ}

theorem steady_run (h : m.core.Steady) (ha : Along s (fun a _ => a.Valid) acts m) :
    (run s acts m).core.Steady :=
  run_induction (P := fun m => m.core.Steady) (fun _ _ ha h => Act.take_steady h ha) ha h

theorem collects_run (h : m.core.Steady) (hc : m.core.Collects)
    (ha : Along s (fun a _ => a.Valid) acts m) (hs : Along s (Act.Smooth s) acts m) :
    (run s acts m).core.Collects := by
  induction acts generalizing m with
  | nil => exact hc
  | cons a acts ih =>
    exact ih (Act.take_steady h ha.1) (Act.take_collects h hc hs.1) ha.2 hs.2

/-- What is collected is tracked after every run from a blank meter on, and after a smooth one what is
tracked is collected too. The runtime describes containers, and opens channels for them, under the names
it is asked for. -/
theorem collecting_tracked (s : ChainSettings) (acts : List (Act δ ρ)) (hm : m.Blank)
    (hv : FaithfulRuntime.Valid m.runtime) (ha : Along s (fun a _ => a.Valid) acts m) :
    (∀ n,(run s acts m).collector.isCollecting n = true →
      (run s acts m).registry.isRegistered n = true) ∧
      (Along s (Act.Smooth s) acts m → ∀ n,
        (run s acts m).collector.isCollecting n = (run s acts m).registry.isRegistered n) := by
  have hst := hm.steady hv
  have ht : (run s acts m).core.Tracks := (steady_run hst ha).tracks
  refine ⟨ht,?_⟩
  intro hs n
  have hc : m.core.Collects := by
    intro n hn
    have hn : m.registry.isRegistered n = true := hn
    simp [Registry.isRegistered_eq,Registry.get?,hm.registry] at hn
  have hc' := collects_run hst hc ha hs
  exact Bool.eq_iff_iff.mpr ⟨ht n,hc' n⟩

/-- A container that is discovered is collected, also once its loop has looked. -/
theorem collecting_tracked_small :
    (run chain [.send (.discovery web),.incident (.instant 100)] small).collector.isCollecting
      "web" = true := by
  have h := collecting_tracked chain [.send (.discovery web),.incident (.instant 100)] small_blank
    (Fleet.keyed_ofContainers [web]) ⟨trivial,trivial,trivial⟩
  have hs : Along chain (Act.Smooth chain) [.send (.discovery web),.incident (.instant 100)] small :=
    ⟨⟨by simp,by decide,by decide⟩,⟨by simp,by decide,by decide⟩,trivial⟩
  have hn : (run chain [.send (.discovery web),.incident (.instant 100)]
      small).registry.isRegistered "web" = true := by decide
  exact (h.2 hs "web").trans hn

/-- A fleet behind a runtime that describes every container as one and the same. -/
structure Mistaking where
  fleet : Fleet
  face : Container

instance : ContainerRuntime Mistaking where
  labelKeys r := r.fleet.labelKeys
  list r := (.done r.fleet.containers.values,r)
  describe _ r := (.done r.face,r)
  openUsage n i r := ((r.fleet.openUsage n i).1,{ r with fleet := (r.fleet.openUsage n i).2 })
  watch types r := (.done (r.fleet.watch types).1,{ r with fleet := (r.fleet.watch types).2 })
  takeEvents i r := ((r.fleet.takeEvents i).1,{ r with fleet := (r.fleet.takeEvents i).2 })
  unwatch _ r := r

def db : Container := { name := "db" }

def mistaking : Watched Mistaking Inbox where
  registry := { policy := .ofParts "track" "" }
  collector := .ofSettings 100 64
  runtime := { inner := ⟨.ofContainers [web,db],db⟩ }
  backend := { inner := {} }

/-- It is not enough that channels are about the containers they were asked for: the change of a tracked
container that is described as another has the other collected, which is not tracked. -/
theorem collecting_untracked :
    (∀ n i (r r' : Mistaking) o,r.fleet.Keyed →
        ContainerRuntime.openUsage n i r = (.done o,r') → o.container.name = n ∧ r'.fleet.Keyed) ∧
      mistaking.Blank ∧ mistaking.runtime.inner.fleet.Keyed ∧
      let m := run chain [.send (.discovery web),.send (.change (.ofEvent webCreated))] mistaking
      m.runtime.unanswered = 0 ∧ m.collector.isCollecting "db" = true ∧
        m.registry.isRegistered "db" = false := by
  refine ⟨?_,⟨rfl,rfl,rfl,rfl⟩,Fleet.keyed_ofContainers [web,db],by decide,by decide,by decide⟩
  intro n i r r' o hr h
  have ho : (r.fleet.openUsage n i).1 = .done o := congrArg Prod.fst h
  have hf : (r.fleet.openUsage n i).2 = r'.fleet := congrArg (fun p => p.2.fleet) h
  have hn : o.container.name = n :=
    FaithfulRuntime.openUsage_name (δ := Fleet) hr (Prod.ext ho rfl)
  have hk : (r.fleet.openUsage n i).2.Keyed := FaithfulRuntime.openUsage_valid (δ := Fleet) hr
  exact ⟨hn,hf ▸ hk⟩

end Watched

end HostMeter
