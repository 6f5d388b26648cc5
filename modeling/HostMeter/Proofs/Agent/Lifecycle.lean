import HostMeter.Proofs.Agent.Queue
import HostMeter.Proofs.Chain.Handed
import HostMeter.Proofs.Chain.Tracked
set_option autoImplicit false

/-! The agent as a machine for each container. A container is untracked, or tracked with a descriptor
and sampled or not; an event moves it on, with what the runtime answers about it, and has at most one
report handed over. -/

namespace HostMeter

/-- What a meter has to do with a container. -/
inductive Standing
  | untracked
  | tracked (info : Container) (sampled : Bool)
  deriving DecidableEq, Repr

/-- What a runtime answers about a container: how it describes it, and whether it opens its channel. -/
structure Answers where
  described : Option Container
  opens : Bool
  deriving DecidableEq, Repr

namespace Standing

def running (info : Container) (sampled : Bool) : Standing × Option Container :=
  (.tracked info sampled,if sampled then some info else none)

/-- The next standing of a container, and the descriptor it is reported with. -/
def step (trackable : Container → Bool) (ans : Answers) :
    Standing → State → Standing × Option Container
  | .tracked info _,.stopped => (.untracked,some info)
  | .tracked info sampled,.running => running info (sampled || ans.opens)
  | .tracked info sampled,.unknown => (.tracked info sampled,some info)
  | .untracked,.running =>
    match ans.described.filter trackable with
    | some info => running info ans.opens
    | none => (.untracked,none)
  | .untracked,_ => (.untracked,none)

variable {trackable : Container → Bool} {ans : Answers}

theorem step_admitted {info : Container} (h : ans.described.filter trackable = some info) :
    step trackable ans .untracked .running = running info ans.opens := by
  simp only [step,h]

theorem step_left (h : ans.described.filter trackable = none) :
    step trackable ans .untracked .running = (.untracked,none) := by
  simp only [step,h]

end Standing

def Event.change (e : Event) (info : Container) : StateChange :=
  (StateChange.ofEvent e).withContainer info

def Outcome.done? {ε α : Type} : Outcome ε α → Option α
  | .done a => some a
  | _ => none

namespace Core

variable {δ ρ : Type}

def standing (n : String) (k : Core δ ρ) : Standing :=
  match k.registry.get? n with
  | some info => .tracked info (k.collector.isCollecting n)
  | none => .untracked

theorem standing_tracked {k : Core δ ρ} {n : String} {info : Container}
    (h : k.registry.get? n = some info) :
    k.standing n = .tracked info (k.collector.isCollecting n) := by
  simp [standing,h]

theorem standing_untracked {k : Core δ ρ} {n : String} (h : k.registry.get? n = none) :
    k.standing n = .untracked := by
  simp [standing,h]

theorem standing_congr {k l : Core δ ρ} {n : String}
    (hr : l.registry.get? n = k.registry.get? n)
    (hc : l.collector.isCollecting n = k.collector.isCollecting n) : l.standing n = k.standing n := by
  unfold standing
  rw [hr,hc]

variable [ContainerRuntime δ]

def opens (n : String) (k : Core δ ρ) : Bool :=
  (ContainerRuntime.openUsage n k.collector.channels.next k.runtime).1.done?.isSome

/-- A container that is not tracked is described before its channel is opened. -/
def answers (n : String) (k : Core δ ρ) : Answers :=
  let asked := ContainerRuntime.describe n k.runtime
  ⟨asked.1.done?,
    if k.registry.isRegistered n then k.opens n else opens n { k with runtime := asked.2 }⟩

def canSample (n : String) (k : Core δ ρ) : Bool := k.collector.isCollecting n || k.opens n

theorem start_ok {n : String} {k : Core δ ρ} (h : k.canSample n = true) :
    (k.start n).1 = .ok () := by
  rcases hr : k.start n with ⟨a,l⟩
  cases Started.of_eq hr with
  | already => rfl
  | opened => rfl
  | unopened p a runtime fresh answer nothing =>
    rw [canSample,fresh,opens,answer] at h
    cases a with
    | done o => exact absurd rfl (nothing o)
    | failed e => cases h
    | crashed => cases h

theorem start_error {n : String} {k : Core δ ρ} (h : k.canSample n = false) :
    ∃ p,(k.start n).1 = .error p := by
  rcases hr : k.start n with ⟨a,l⟩
  cases Started.of_eq hr with
  | already collecting =>
    rw [canSample,collecting] at h
    cases h
  | opened o runtime fresh answer =>
    rw [canSample,opens,answer] at h
    simp [Outcome.done?] at h
  | unopened p => exact ⟨p,rfl⟩

theorem isCollecting_start [FaithfulRuntime δ] {k : Core δ ρ}
    (hv : FaithfulRuntime.Valid k.runtime) (n m : String) :
    (k.start n).2.collector.isCollecting m =
      (decide (m = n) && k.canSample n || k.collector.isCollecting m) := by
  rcases hr : k.start n with ⟨a,l⟩
  have hs := Started.of_eq hr
  cases h : k.canSample n with
  | true =>
    have ha := start_ok h
    rw [hr] at ha
    subst ha
    rw [Bool.and_true]
    exact hs.isCollecting hv m
  | false =>
    obtain ⟨p,ha⟩ := start_error h
    rw [hr] at ha
    subst ha
    rw [Bool.and_false,Bool.false_or]
    exact congrArg (fun c => c.isCollecting m) hs.collector_of_error

def next (e : Event) (k : Core δ ρ) : Standing × Option Container :=
  (k.standing e.containerName).step k.registry.isTrackable (k.answers e.containerName)
    (State.ofEvent e.type)

/-- An event takes a meter on as the machine tells, and leaves other containers alone. -/
structure Follows (meterId : String) (e : Event) (k l : Core δ (Tapped ρ)) : Prop where
  standing : l.standing e.containerName = (k.next e).1
  handed : l.backend.handed =
    k.backend.handed++((k.next e).2.map fun info => .ofChange meterId (e.change info) k.clock).toList
  others : ∀ n,n ≠ e.containerName → l.standing n = k.standing n
  tracks : l.Tracks

variable [Backend ρ]

/-- What an event does to a core: its subject is looked for, and what it comes to is sent. -/
def event (meterId : String) (e : Event) (k : Core δ ρ) : Core δ ρ :=
  match k.subject e with
  | (some info,l) => (l.send meterId (.change (e.change info))).2
  | (none,l) => l

section

variable {meterId : String} {e : Event} {info : Container} {k : Core δ (Tapped ρ)}

omit [ContainerRuntime δ] [Backend ρ] in
theorem isRegistered_change (hk : k.registry.Keyed)
    (h : k.registry.get? e.containerName = some info) :
    (e.change info).containerName = e.containerName ∧
      k.registry.isRegistered (e.change info).containerName = true := by
  have hn : info.name = e.containerName := hk _ _ h
  refine ⟨hn,?_⟩
  show k.registry.isRegistered info.name = true
  rw [hn,Registry.isRegistered_eq,h]
  rfl

theorem send_running [FaithfulRuntime δ] (meterId : String) (hv : FaithfulRuntime.Valid k.runtime)
    (hk : k.registry.Keyed) (h : k.registry.get? e.containerName = some info)
    (he : State.ofEvent e.type = .running) :
    let l := (k.send meterId (.change (e.change info))).2
    l.standing e.containerName = .tracked info (k.canSample e.containerName) ∧
      l.backend.handed = k.backend.handed++
        (if k.canSample e.containerName then [.ofChange meterId (e.change info) k.clock] else []) ∧
      ∀ n,n ≠ e.containerName → l.standing n = k.standing n := by
  obtain ⟨hname,hreg⟩ := isRegistered_change hk h
  have hs : (e.change info).state = .running := he
  have hl : (k.send meterId (.change (e.change info))).2 =
      (k.follow meterId (e.change info)).2 := by
    show (k.change meterId (e.change info)).2 = _
    rw [change_running hreg hs,look_resolved rfl]
  have hcol : ∀ n,(k.follow meterId (e.change info)).2.collector.isCollecting n =
      (decide (n = e.containerName) && k.canSample e.containerName ||
        k.collector.isCollecting n) := by
    intro n
    rw [follow_collector,sample_running hs,hname,isCollecting_start hv]
  simp only [hl]
  refine ⟨?_,?_,?_⟩
  · rw [standing_tracked (by rw [follow_registry]; exact h),hcol]
    simp only [decide_true,Bool.true_and]
    congr 1
    unfold canSample
    cases k.collector.isCollecting e.containerName <;> simp
  · cases hc : k.canSample e.containerName with
    | true =>
      rw [handed_follow_ok (by rw [sample_running hs,hname]; exact start_ok hc),if_pos rfl]
    | false =>
      obtain ⟨p,hp⟩ := start_error hc
      rw [handed_follow_error (by rw [sample_running hs,hname]; exact hp)]
      simp
  · intro n hn
    apply standing_congr
    · rw [follow_registry]
    · rw [hcol]
      simp [hn]

theorem send_stopped (meterId : String) (hk : k.registry.Keyed) (hs : k.collector.Sound)
    (hu : k.collector.Unharmed) (h : k.registry.get? e.containerName = some info)
    (he : State.ofEvent e.type = .stopped) :
    let l := (k.send meterId (.change (e.change info))).2
    l.standing e.containerName = .untracked ∧
      l.backend.handed = k.backend.handed++[.ofChange meterId (e.change info) k.clock] ∧
      ∀ n,n ≠ e.containerName → l.standing n = k.standing n := by
  obtain ⟨hname,hreg⟩ := isRegistered_change hk h
  have hst : (e.change info).state = .stopped := he
  have hl : k.send meterId (.change (e.change info)) =
      follow meterId (e.change info)
        { k with registry := (k.registry.drop e.containerName).2 } := by
    show k.change meterId (e.change info) = _
    rw [change_stopped hreg hst,StateChange.resolvedIn_of_resolved rfl,hname]
  simp only [hl]
  refine ⟨?_,?_,?_⟩
  · apply standing_untracked
    rw [follow_registry,Registry.get?_drop,if_pos rfl]
  · exact handed_follow_stopped
      (k := { k with registry := (k.registry.drop e.containerName).2 }) hs hu hst
  · intro n hn
    apply standing_congr
    · rw [follow_registry,Registry.get?_drop,if_neg hn]
    · rw [follow_collector,sample_stopped hst,hname,
        isCollecting_halt (k := { k with registry := (k.registry.drop e.containerName).2 }) hs]
      simp [hn]

theorem send_unknown (meterId : String) (hk : k.registry.Keyed)
    (h : k.registry.get? e.containerName = some info) (he : State.ofEvent e.type = .unknown) :
    let l := (k.send meterId (.change (e.change info))).2
    l.backend.handed = k.backend.handed++[.ofChange meterId (e.change info) k.clock] ∧
      ∀ n,l.standing n = k.standing n := by
  obtain ⟨hname,hreg⟩ := isRegistered_change hk h
  have hst : (e.change info).state = .unknown := he
  have hl : k.send meterId (.change (e.change info)) = k.follow meterId (e.change info) := by
    show k.change meterId (e.change info) = _
    rw [change_unknown hreg hst]
  simp only [hl]
  refine ⟨?_,?_⟩
  · exact handed_follow_ok (by rw [sample_unknown hst])
  · intro n
    apply standing_congr
    · rw [follow_registry]
    · rw [follow_collector,sample_unknown hst]

omit [Backend ρ] in
theorem next_tracked (h : k.registry.get? e.containerName = some info) :
    k.next e = Standing.step k.registry.isTrackable (k.answers e.containerName)
      (.tracked info (k.collector.isCollecting e.containerName)) (State.ofEvent e.type) := by
  rw [next,standing_tracked h]

omit [Backend ρ] in
theorem next_untracked (h : k.registry.get? e.containerName = none) :
    k.next e = Standing.step k.registry.isTrackable (k.answers e.containerName)
      .untracked (State.ofEvent e.type) := by
  rw [next,standing_untracked h]

omit [Backend ρ] in
theorem next_running (h : k.registry.get? e.containerName = some info)
    (he : State.ofEvent e.type = .running) :
    k.next e = Standing.running info (k.canSample e.containerName) := by
  have hr : k.registry.isRegistered e.containerName = true := by
    rw [Registry.isRegistered_eq,h]
    rfl
  rw [next_tracked h,he]
  simp only [Standing.step,answers,hr,if_true,canSample]

omit [Backend ρ] in
theorem next_admitted {runtime : δ} (h : k.registry.get? e.containerName = none)
    (he : State.ofEvent e.type = .running)
    (hd : ContainerRuntime.describe e.containerName k.runtime = (.done info,runtime))
    (hp : k.registry.isTrackable info = true) :
    k.next e = Standing.running info (opens e.containerName { k with runtime }) := by
  have hr : k.registry.isRegistered e.containerName = false := by
    rw [Registry.isRegistered_eq,h]
    rfl
  have hdesc : (k.answers e.containerName).described = some info := by
    simp only [answers,hd]
    rfl
  have hf : (k.answers e.containerName).described.filter k.registry.isTrackable = some info := by
    rw [hdesc]
    simp [hp]
  rw [next_untracked h,he,Standing.step_admitted hf]
  simp only [answers,hr,hd]
  rfl

omit [Backend ρ] in
theorem follows_nothing (ht : k.Tracks) {l : Core δ (Tapped ρ)} (hr : l.registry = k.registry)
    (hc : l.collector = k.collector) (hb : l.backend = k.backend)
    (hn : k.next e = (k.standing e.containerName,none)) : k.Follows meterId e l where
  standing := by
    rw [hn]
    exact standing_congr (by rw [hr]) (by rw [hc])
  handed := by
    rw [hn,hb]
    exact (List.append_nil _).symm
  others := fun n _ => standing_congr (by rw [hr]) (by rw [hc])
  tracks := by
    intro n hm
    rw [hc] at hm
    rw [hr]
    exact ht n hm

omit [Backend ρ] in
theorem follows_left (ht : k.Tracks) (h : k.registry.get? e.containerName = none)
    (he : State.ofEvent e.type = .running)
    (hf : (k.answers e.containerName).described.filter k.registry.isTrackable = none)
    (runtime : δ) : k.Follows meterId e { k with runtime } := by
  refine follows_nothing ht rfl rfl rfl ?_
  rw [next_untracked h,standing_untracked h,he,Standing.step_left hf]

variable [FaithfulRuntime δ]

theorem event_tracked (hk : k.Steady) (hu : k.collector.Unharmed)
    (h : k.registry.get? e.containerName = some info) :
    k.Follows meterId e (k.event meterId e) := by
  have he : k.event meterId e = (k.send meterId (.change (e.change info))).2 := by
    simp only [event,subject,h]
  have htr := (hk.send meterId (.change (e.change info))).tracks
  rw [he]
  cases hstate : State.ofEvent e.type with
  | running =>
    obtain ⟨hst,hh,ho⟩ := send_running meterId hk.valid hk.keyed h hstate
    have hn := next_running h hstate
    refine ⟨?_,?_,ho,htr⟩
    · rw [hst,hn]
      rfl
    · rw [hh,hn]
      cases k.canSample e.containerName <;> rfl
  | stopped =>
    obtain ⟨hst,hh,ho⟩ := send_stopped meterId hk.keyed hk.sound hu h hstate
    have hn := next_tracked h
    rw [hstate] at hn
    refine ⟨?_,?_,ho,htr⟩
    · rw [hst,hn]
      rfl
    · rw [hh,hn]
      rfl
  | unknown =>
    obtain ⟨hh,ho⟩ := send_unknown meterId hk.keyed h hstate
    have hn := next_tracked h
    rw [hstate] at hn
    refine ⟨?_,?_,fun n _ => ho n,htr⟩
    · rw [ho,hn,standing_tracked h]
      rfl
    · rw [hh,hn]
      rfl

theorem event_admitted {runtime : δ} (hk : k.Steady)
    (h : k.registry.get? e.containerName = none) (he : State.ofEvent e.type = .running)
    (hd : ContainerRuntime.describe e.containerName k.runtime = (.done info,runtime))
    (hp : k.registry.isTrackable info = true) : k.Follows meterId e (k.event meterId e) := by
  have hname : info.name = e.containerName := FaithfulRuntime.describe_name hk.valid hd
  have hfree : k.registry.isRegistered info.name = false := by
    rw [hname,Registry.isRegistered_eq,h]
    rfl
  have ha : (k.registry.register info).1 = .added :=
    Registry.register_eq_added_iff.mpr ⟨hp,hfree⟩
  -- What is collected is tracked, so that a container which is not cannot be sampled already.
  have hidle : k.collector.isCollecting e.containerName = false := by
    cases hc : k.collector.isCollecting e.containerName with
    | false => rfl
    | true =>
      have hr := hk.tracks _ hc
      rw [← hname,hfree] at hr
      cases hr
  let l : Core δ (Tapped ρ) := { k with runtime, registry := (k.registry.register info).2 }
  have hg : l.registry.get? e.containerName = some info := by
    show (k.registry.register info).2.get? e.containerName = some info
    rw [Registry.get?_register,if_pos ⟨ha,hname.symm⟩]
  have hl : (k.enlist e).2 = l := by rw [enlist_added hd ha]
  have hls : l.Steady := hl ▸ hk.enlist e
  have hev : k.event meterId e = (l.send meterId (.change (e.change info))).2 := by
    simp only [event,subject,h,he,if_true,enlist_added hd ha]
    rfl
  have hsample : l.canSample e.containerName = opens e.containerName { k with runtime } := by
    show (k.collector.isCollecting e.containerName || _) = _
    rw [hidle]
    rfl
  have hn := next_admitted h he hd hp
  rw [← hsample] at hn
  obtain ⟨hst,hh,ho⟩ := send_running meterId hls.valid hls.keyed hg he
  rw [hev]
  refine ⟨?_,?_,?_,(hls.send meterId _).tracks⟩
  · rw [hst,hn]
    rfl
  · rw [hh,hn]
    cases l.canSample e.containerName <;> rfl
  · intro n hm
    rw [ho n hm]
    apply standing_congr
    · show (k.registry.register info).2.get? n = k.registry.get? n
      rw [Registry.get?_register,if_neg (fun hc => hm (hc.2.trans hname))]
    · rfl

theorem event_untracked (hk : k.Steady) (h : k.registry.get? e.containerName = none) :
    k.Follows meterId e (k.event meterId e) := by
  by_cases he : State.ofEvent e.type = .running
  · rcases hd : ContainerRuntime.describe e.containerName k.runtime with ⟨a,runtime⟩
    have hdesc : (k.answers e.containerName).described = a.done? := by
      simp only [answers,hd]
    cases a with
    | done info =>
      cases hp : k.registry.isTrackable info with
      | true => exact event_admitted hk h he hd hp
      | false =>
        have hev : k.event meterId e = { k with runtime } := by
          simp only [event,subject,h,he,if_true,
            enlist_notTrackable hd (by rw [Registry.register_untrackable hp])]
        rw [hev]
        refine follows_left hk.tracks h he ?_ runtime
        rw [hdesc]
        simp [Outcome.done?,hp]
    | failed err =>
      have hev : k.event meterId e = { k with runtime } := by
        simp only [event,subject,h,he,if_true,enlist_unanswered hd (by simp)]
      rw [hev]
      exact follows_left hk.tracks h he (by rw [hdesc]; rfl) runtime
    | crashed =>
      have hev : k.event meterId e = { k with runtime } := by
        simp only [event,subject,h,he,if_true,enlist_unanswered hd (by simp)]
      rw [hev]
      exact follows_left hk.tracks h he (by rw [hdesc]; rfl) runtime
  · have hev : k.event meterId e = k := by
      simp only [event,subject,h,he,if_false]
    rw [hev]
    refine follows_nothing hk.tracks rfl rfl rfl ?_
    rw [next_untracked h,standing_untracked h]
    cases hstate : State.ofEvent e.type with
    | running => exact absurd hstate he
    | stopped => rfl
    | unknown => rfl

theorem event_follows (hk : k.Steady) (hu : k.collector.Unharmed) (meterId : String) (e : Event) :
    k.Follows meterId e (k.event meterId e) := by
  cases h : k.registry.get? e.containerName with
  | some info => exact event_tracked hk hu h
  | none => exact event_untracked hk h

end

omit [Backend ρ] in
theorem Steady.subject [FaithfulRuntime δ] {k : Core δ ρ} (h : k.Steady) (e : Event) :
    (k.subject e).2.Steady := by
  unfold Core.subject
  split
  · exact h
  · split
    · exact h.enlist e
    · exact h

end Core

namespace Crew

variable {δ ρ : Type} [ContainerRuntime δ] [Backend ρ] {c : Crew δ ρ}

/-- What an event does to a crew: its subject is looked for whether anybody is there or not. -/
def event (meterId : String) (e : Event) (c : Crew δ ρ) : Crew δ ρ :=
  match c.core.subject e with
  | (some info,l) => send meterId (.change (e.change info)) { c with core := l }
  | (none,l) => { c with core := l }

theorem core_event (meterId : String) (e : Event) (h : c.workers ≠ 0) :
    (c.event meterId e).core = c.core.event meterId e := by
  unfold event Core.event
  rcases c.core.subject e with ⟨found,l⟩
  cases found with
  | some info => exact core_send (c := { c with core := l }) h
  | none => rfl

variable [FaithfulRuntime δ]

theorem send_steady (h : c.core.Steady) (meterId : String) (msg : Message) :
    (c.send meterId msg).core.Steady :=
  send_keeps (P := fun k => k.Steady) (fun msg _ hk => Core.Steady.send hk meterId msg) msg h

theorem event_steady (h : c.core.Steady) (meterId : String) (e : Event) :
    (c.event meterId e).core.Steady := by
  have hs := h.subject e
  unfold event
  rcases hk : c.core.subject e with ⟨found,l⟩
  rw [hk] at hs
  cases found with
  | some info => exact send_steady (c := { c with core := l }) hs meterId _
  | none => exact hs

end Crew

/-- What an agent lives through, its queue worked off each time. -/
inductive Deed (δ ρ : Type)
  | event (e : Event)
  | pass (msg : Message)
  | incident (o : Incident δ ρ)

variable {δ ρ : Type} [ContainerRuntime δ] [Backend ρ]

namespace Deed

def take : Deed δ ρ → WatchedAgent δ ρ → WatchedAgent δ ρ
  | .event e,a => (a.handleEvent e).settle
  | .pass msg,a => (a.dispatch msg).settle
  | .incident o,a => a.onMeter o.take

def Valid [FaithfulRuntime δ] : Deed δ ρ → Prop
  | .incident o => o.Valid
  | _ => True

end Deed

namespace Agent

variable {a : Agent δ ρ}

theorem crew_dispatch (msg : Message) (h : a.dispatcher.queue = []) :
    (a.dispatch msg).settle.crew = a.crew.send a.chain.meterId msg := by
  rw [crew_settle,outlook_dispatch,outlook,h]
  rfl

theorem crew_handleEvent (e : Event) (h : a.dispatcher.queue = []) :
    (a.handleEvent e).settle.crew = a.crew.event a.chain.meterId e := by
  have hc : a.crew.core = a.meter.core := rfl
  unfold handleEvent Crew.event
  rw [hc,← outcome_subject a.chain.meterId e a.meter]
  rcases subject a.chain.meterId e a.meter with ⟨found,m⟩
  cases found with
  | some info => exact crew_dispatch (a := { a with meter := m }) (.change (e.change info)) h
  | none =>
    have ho := crew_settle { a with meter := m }
    rw [outlook,h] at ho
    exact ho

end Agent

namespace WatchedAgent

variable [FaithfulRuntime δ] {a : WatchedAgent δ ρ}

def lived (ds : List (Deed δ ρ)) (a : WatchedAgent δ ρ) : WatchedAgent δ ρ :=
  ds.foldl (fun a d => d.take a) a

theorem take_steady (h : a.meter.core.Steady) (hq : a.dispatcher.queue = []) {d : Deed δ ρ}
    (hd : d.Valid) : (d.take a).meter.core.Steady ∧ (d.take a).dispatcher.queue = [] := by
  cases d with
  | event e =>
    refine ⟨?_,Agent.settle_queue _⟩
    show (a.handleEvent e).settle.crew.core.Steady
    rw [Agent.crew_handleEvent e hq]
    exact Crew.event_steady h a.chain.meterId e
  | pass msg =>
    refine ⟨?_,Agent.settle_queue _⟩
    show (a.dispatch msg).settle.crew.core.Steady
    rw [Agent.crew_dispatch msg hq]
    exact Crew.send_steady h a.chain.meterId msg
  | incident o => exact ⟨Incident.take_steady h hd,hq⟩

theorem lived_steady (h : a.meter.core.Steady) (hq : a.dispatcher.queue = [])
    {ds : List (Deed δ ρ)} (hd : ∀ d ∈ ds,d.Valid) :
    (a.lived ds).meter.core.Steady ∧ (a.lived ds).dispatcher.queue = [] := by
  induction ds generalizing a with
  | nil => exact ⟨h,hq⟩
  | cons d ds ih =>
    obtain ⟨h',hq'⟩ := take_steady h hq (hd d List.mem_cons_self)
    exact ih h' hq' (fun d hm => hd d (List.mem_cons_of_mem _ hm))

/-- Whatever an agent has lived through, the next event takes its container on as the machine tells,
has the report of the machine handed over, and leaves all other containers alone. -/
theorem event_refines (hb : Watched.Blank a.meter) (hq : a.dispatcher.queue = [])
    (hv : FaithfulRuntime.Valid a.meter.runtime) (ds : List (Deed δ ρ)) (hd : ∀ d ∈ ds,d.Valid)
    (e : Event) (hu : (a.lived ds).meter.collector.Unharmed)
    (ho : (a.lived ds).dispatcher.isClosed = false) :
    (a.lived ds).meter.core.Follows (a.lived ds).chain.meterId e
      (Deed.take (.event e) (a.lived ds)).meter.core := by
  obtain ⟨hs,hq'⟩ := lived_steady (hb.steady hv) hq hd
  show Core.Follows _ e _ ((a.lived ds).handleEvent e).settle.crew.core
  rw [Agent.crew_handleEvent e hq',Crew.core_event _ e (Agent.crew_busy ho)]
  exact Core.event_follows hs hu _ e

/-- A container that was created and is deleted is not tracked any more. -/
theorem event_refines_small :
    (Deed.take (.event Watched.webDeleted)
      (small.lived [.event Watched.webCreated])).meter.core.standing "web" = .untracked := by
  have h := event_refines (a := small) Watched.small_blank rfl (Fleet.keyed_ofContainers _)
    [.event Watched.webCreated] (by simp [Deed.Valid]) Watched.webDeleted (by decide)
    (by decide)
  exact h.standing.trans (by decide)

end WatchedAgent

end HostMeter
