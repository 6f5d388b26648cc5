import HostMeter.Proofs.Agent.Lifecycle
import HostMeter.Proofs.Agent.Shutdown
set_option autoImplicit false

/-! The loop of an agent and its worker side by side. The loop hears of one event at a time, looks for
its subject in the registry as it is, and queues what the event comes to; in between the worker sends
what is queued, one message after the other. A stop that is heard while the discovery of its container
waits in the queue finds nothing registered and is lost. -/

namespace HostMeter

namespace Registry

variable {r : Registry} {n : String}

theorem isRegistered_heedAll_other {ms : List Message} (h : ∀ msg ∈ ms,msg.name? ≠ some n) :
    (r.heedAll ms).isRegistered n = r.isRegistered n := by
  induction ms generalizing r with
  | nil => rfl
  | cons msg ms ih =>
    have hms := ih (r := r.heed msg) (fun m hm => h m (List.mem_cons_of_mem _ hm))
    exact hms.trans (isRegistered_heed_other (h msg List.mem_cons_self))

theorem isRegistered_heedAll_free {ms : List Message} (h : ∀ c,.discovery c ∈ ms → c.name ≠ n)
    (hn : r.isRegistered n = false) : (r.heedAll ms).isRegistered n = false := by
  induction ms generalizing r with
  | nil => exact hn
  | cons msg ms ih =>
    apply ih (fun c hc => h c (List.mem_cons_of_mem _ hc))
    cases msg with
    | discovery c =>
      have hc : n ≠ c.name := (h c List.mem_cons_self).symm
      simp [heed,isRegistered_register_eq,hc,hn]
    | change c =>
      by_cases hs : c.state = .stopped
      · simp [heed,hs,isRegistered_drop,hn]
      · simp [heed,hs,hn]
    | sample x => exact hn
    | report x => exact hn
    | devnull => exact hn

theorem isRegistered_heedAll_congr {q : Registry} (hp : q.policy = r.policy)
    (hn : q.isRegistered n = r.isRegistered n) (ms : List Message) :
    (q.heedAll ms).isRegistered n = (r.heedAll ms).isRegistered n := by
  induction ms generalizing q r with
  | nil => exact hn
  | cons msg ms ih =>
    apply ih
    · rw [policy_heed,policy_heed,hp]
    · exact isRegistered_heed_congr hp hn msg

end Registry

namespace Core

variable {δ ρ : Type} [ContainerRuntime δ] {k : Core δ ρ} {e : Event} {n : String}

theorem subject_other [FaithfulRuntime δ] (hk : k.Steady) (hn : n ≠ e.containerName) :
    (k.subject e).2.registry.isRegistered n = k.registry.isRegistered n ∧
      (k.subject e).2.registry.policy = k.registry.policy := by
  unfold subject
  split
  · exact ⟨rfl,rfl⟩
  · split
    · rw [enlist_registry]
      rcases hd : ContainerRuntime.describe e.containerName k.runtime with ⟨a,runtime⟩
      cases a with
      | done info =>
        have hi : n ≠ info.name := by
          rw [FaithfulRuntime.describe_name hk.valid hd]
          exact hn
        exact ⟨by simp [Registry.isRegistered_register,hi],Registry.register_policy _ info⟩
      | failed err => exact ⟨rfl,rfl⟩
      | crashed => exact ⟨rfl,rfl⟩
    · exact ⟨rfl,rfl⟩

theorem subject_name [FaithfulRuntime δ] (hk : k.Steady) {info : Container}
    (h : (k.subject e).1 = some info) : info.name = e.containerName := by
  unfold subject at h
  split at h
  · rename_i found hf
    cases h
    exact hk.keyed _ _ hf
  · rename_i hnone
    split at h
    · rcases hd : ContainerRuntime.describe e.containerName k.runtime with ⟨a,runtime⟩
      cases a with
      | done found =>
        cases hr : (k.registry.register found).1 with
        | added =>
          rw [enlist_added hd hr] at h
          cases h
          exact FaithfulRuntime.describe_name hk.valid hd
        | present =>
          rw [enlist_present hd hr,hnone] at h
          cases h
        | notTrackable =>
          rw [enlist_notTrackable hd hr] at h
          cases h
      | failed err =>
        rw [enlist_unanswered hd (by simp)] at h
        cases h
      | crashed =>
        rw [enlist_unanswered hd (by simp)] at h
        cases h
    · cases h

theorem subject_stopped (he : State.ofEvent e.type = .stopped) :
    k.subject e = (k.registry.get? e.containerName,k) := by
  unfold subject
  split
  · rename_i info hi
    rw [hi]
  · rename_i hnone
    rw [hnone,if_neg (by rw [he]; decide)]

end Core

variable {δ ρ : Type} [ContainerRuntime δ] [Backend ρ]

namespace Dispatcher

section

variable {σ : Type} [Journal σ] [Metered σ]

theorem process_withQueue (fs : List (Filter σ)) (msg : Message) (d : Dispatcher) (q : List Message)
    (s : σ) :
    process fs msg { d with queue := q } s =
      ({ (d.process fs msg s).1 with queue := q },(d.process fs msg s).2) := by
  unfold process
  rcases Pipeline.run fs msg (count (·.incMessages msg.kind) s) with ⟨p,t⟩
  cases p <;> rfl

theorem workOff_withQueue (fs : List (Filter σ)) (ms : List Message) (d : Dispatcher)
    (q : List Message) (s : σ) :
    workOff fs ms { d with queue := q } s =
      ({ (workOff fs ms d s).1 with queue := q },(workOff fs ms d s).2) := by
  induction ms generalizing d s with
  | nil => rfl
  | cons msg ms ih =>
    cases hd : d.isClosed with
    | true =>
      rw [workOff_closed (msg :: ms) s hd,
        workOff_closed (d := { d with queue := q }) (msg :: ms) s hd]
    | false =>
      rw [workOff_cons msg ms s hd,workOff_cons (d := { d with queue := q }) msg ms s hd,
        process_withQueue,ih]

theorem workOff_append (fs : List (Filter σ)) (ms ns : List Message) (d : Dispatcher) (s : σ) :
    workOff fs (ms++ns) d s = workOff fs ns (workOff fs ms d s).1 (workOff fs ms d s).2 := by
  induction ms generalizing d s with
  | nil => rfl
  | cons msg ms ih =>
    cases hd : d.isClosed with
    | true =>
      rw [List.cons_append,workOff_closed _ s hd,workOff_closed _ s hd,workOff_closed ns s hd]
    | false => rw [List.cons_append,workOff_cons _ _ s hd,ih,← workOff_cons msg ms s hd]

theorem workOff_places (fs : List (Filter σ)) (ms : List Message) (d : Dispatcher) (s : σ) :
    (workOff fs ms d s).1.places = d.places := by
  induction ms generalizing d s with
  | nil => rfl
  | cons msg ms ih =>
    cases hd : d.isClosed with
    | true => rw [workOff_closed (msg :: ms) s hd]
    | false =>
      rw [workOff_cons msg ms s hd,ih]
      unfold process
      split <;> rfl

end

end Dispatcher

namespace Agent

variable {a : Agent δ ρ}

def work (a : Agent δ ρ) : Agent δ ρ :=
  let (d,m) := Dispatcher.workOff a.filters (a.dispatcher.queue.take 1)
    { a.dispatcher with queue := a.dispatcher.queue.tail } a.meter
  { a with dispatcher := d, meter := m }

theorem work_queue (a : Agent δ ρ) : a.work.dispatcher.queue = a.dispatcher.queue.tail :=
  Dispatcher.workOff_queue _ { a.dispatcher with queue := a.dispatcher.queue.tail } a.meter

theorem crew_work (a : Agent δ ρ) :
    a.work.crew = a.crew.sendAll a.chain.meterId (a.dispatcher.queue.take 1) :=
  Dispatcher.crew_workOff a.chain _ { a.dispatcher with queue := a.dispatcher.queue.tail } a.meter

theorem settle_work (a : Agent δ ρ) : a.work.settle = a.settle := by
  let d₀ : Dispatcher := { a.dispatcher with queue := [] }
  have hq : a.dispatcher.queue.take 1++a.dispatcher.queue.tail = a.dispatcher.queue := by
    rw [← List.drop_one,List.take_append_drop]
  have hsplit := Dispatcher.workOff_append a.filters (a.dispatcher.queue.take 1)
    a.dispatcher.queue.tail d₀ a.meter
  have hfirst := Dispatcher.workOff_withQueue a.filters (a.dispatcher.queue.take 1) d₀
    a.dispatcher.queue.tail a.meter
  have hempty : (Dispatcher.workOff a.filters (a.dispatcher.queue.take 1) d₀ a.meter).1.queue =
      d₀.queue := Dispatcher.workOff_queue _ d₀ a.meter
  rw [hq] at hsplit
  rcases hd : Dispatcher.workOff a.filters (a.dispatcher.queue.take 1) d₀ a.meter with ⟨d,m⟩
  rw [hd] at hsplit hfirst hempty
  have hwork : a.work =
      { a with dispatcher := { d with queue := a.dispatcher.queue.tail }, meter := m } := by
    unfold work
    rw [show Dispatcher.workOff a.filters _ { a.dispatcher with queue := a.dispatcher.queue.tail }
      a.meter = _ from hfirst]
  have hclean : { d with queue := d₀.queue } = d := by
    rw [← hempty]
  have hs : a.dispatcher.settle a.filters a.meter =
      Dispatcher.workOff a.filters a.dispatcher.queue.tail d m := hsplit
  have hs' : a.work.dispatcher.settle a.work.filters a.work.meter =
      Dispatcher.workOff a.filters a.dispatcher.queue.tail d m := by
    rw [hwork]
    exact congrArg (fun d => Dispatcher.workOff a.filters a.dispatcher.queue.tail d m) hclean
  unfold settle
  rw [hs,hs',hwork]

theorem settle_of_empty (h : a.dispatcher.queue = []) : a.settle = a := by
  have hd : { a.dispatcher with queue := a.dispatcher.queue } = a.dispatcher := rfl
  rw [h] at hd
  simp only [settle,Dispatcher.settle,h,Dispatcher.workOff,hd]

theorem settle_places (a : Agent δ ρ) : a.settle.dispatcher.places = a.dispatcher.places :=
  Dispatcher.workOff_places a.filters a.dispatcher.queue { a.dispatcher with queue := [] } a.meter

theorem dispatch_congr {b : Agent δ ρ} (msg : Message) (h : b.ready = a.ready) :
    b.dispatch msg = a.dispatch msg := by
  cases hc : a.ready.dispatcher.isClosed with
  | false => rw [dispatch_accepted msg hc,dispatch_accepted msg (by rw [h]; exact hc),h]
  | true => rw [dispatch_refused msg hc,dispatch_refused msg (by rw [h]; exact hc),h]

def waits (a : Agent δ ρ) : Bool :=
  decide (a.dispatcher.places ≤ a.dispatcher.queue.length) && !a.dispatcher.isClosed

theorem crew_ready (h : a.waits = false) : a.ready.crew = a.crew := by
  unfold ready
  split
  · rename_i hp
    have hc : a.dispatcher.isClosed = true := by simpa [waits,hp] using h
    rw [crew_settle,outlook,Crew.sendAll_idle (crew_idle hc)]
  · rfl

theorem crew_queued (msg : Message) (h : a.waits = false) : (a.dispatch msg).crew = a.crew := by
  rw [← crew_ready h]
  cases hc : a.ready.dispatcher.isClosed with
  | false =>
    rw [dispatch_accepted msg hc]
    rfl
  | true =>
    rw [dispatch_refused msg hc]
    rfl

theorem queue_queued (msg : Message) (h : a.waits = false) (ho : a.dispatcher.isClosed = false) :
    (a.dispatch msg).dispatcher.queue = a.dispatcher.queue++[msg] := by
  have hp : ¬a.dispatcher.places ≤ a.dispatcher.queue.length := by simpa [waits,ho] using h
  have hr : a.ready = a := if_neg hp
  rw [dispatch_accepted msg (by rw [hr]; exact ho),hr]

end Agent

/-- The loop of an agent and its worker, which share the meter and the queue. -/
structure Relay (δ ρ : Type) where
  agent : WatchedAgent δ ρ
  /-- What the loop has still to queue. It hears of nothing else until that is done. -/
  outgoing : List Message := []

inductive Stride (δ ρ : Type)
  | hear (e : Event)
  | pass (x : Sample)
  | queue
  | work
  | incident (o : Incident δ ρ)

namespace Relay

def hear (e : Event) (r : Relay δ ρ) : Relay δ ρ :=
  match r.outgoing with
  | _ :: _ => r
  | [] =>
    let (found,m) := Agent.subject r.agent.chain.meterId e r.agent.meter
    { agent := { r.agent with meter := m }
      outgoing := (found.map fun info => .change (e.change info)).toList }

def pass (x : Sample) (r : Relay δ ρ) : Relay δ ρ :=
  match r.outgoing with
  | _ :: _ => r
  | [] => { r with outgoing := [.sample x] }

def queue (r : Relay δ ρ) : Relay δ ρ :=
  match r.outgoing with
  | [] => r
  | msg :: ms => if r.agent.waits then r else { agent := r.agent.dispatch msg, outgoing := ms }

end Relay

namespace Stride

def take : Stride δ ρ → Relay δ ρ → Relay δ ρ
  | .hear e,r => r.hear e
  | .pass x,r => r.pass x
  | .queue,r => r.queue
  | .work,r => { r with agent := r.agent.work }
  | .incident o,r => { r with agent := r.agent.onMeter o.take }

def Valid [FaithfulRuntime δ] : Stride δ ρ → Prop
  | .incident o => o.Valid
  | _ => True

def Spares (n : String) (x : Stride δ ρ) : Prop := ∀ e,x = .hear e → e.containerName ≠ n

end Stride

namespace Relay

def run (xs : List (Stride δ ρ)) (r : Relay δ ρ) : Relay δ ρ := xs.foldl (fun r x => x.take r) r

variable {a : WatchedAgent δ ρ} {r : Relay δ ρ} {x : Stride δ ρ} {e : Event} {n : String}

theorem run_append (xs ys : List (Stride δ ρ)) (r : Relay δ ρ) :
    run (xs++ys) r = run ys (run xs r) := List.foldl_append

theorem run_cons (x : Stride δ ρ) (xs : List (Stride δ ρ)) (r : Relay δ ρ) :
    run (x :: xs) r = run xs (x.take r) := rfl

theorem run_settle (ms : List Message) {k : Nat} (h : a.dispatcher.queue.length = k) :
    run (List.replicate k .work) ⟨a,ms⟩ = ⟨a.settle,ms⟩ := by
  induction k generalizing a with
  | zero =>
    rw [Agent.settle_of_empty (List.eq_nil_of_length_eq_zero h)]
    rfl
  | succ k ih =>
    have hk : a.work.dispatcher.queue.length = k := by
      rw [Agent.work_queue,List.length_tail,h,Nat.add_sub_cancel]
    rw [List.replicate_succ,run_cons,← Agent.settle_work]
    exact ih hk

theorem run_queue (msg : Message) (ms : List Message) (h : a.waits = false) :
    run [.queue] ⟨a,msg :: ms⟩ = ⟨a.dispatch msg,ms⟩ := by
  show queue ⟨a,msg :: ms⟩ = _
  simp [queue,h]

theorem run_dispatch (msg : Message) (ms : List Message) (hp : 0 < a.dispatcher.places) :
    ∃ k,run (List.replicate k .work++[.queue]) ⟨a,msg :: ms⟩ = ⟨a.dispatch msg,ms⟩ := by
  cases hw : a.waits with
  | false => exact ⟨0,run_queue msg ms hw⟩
  | true =>
    refine ⟨a.dispatcher.queue.length,?_⟩
    have hfull : a.dispatcher.places ≤ a.dispatcher.queue.length := by
      simp only [Agent.waits,Bool.and_eq_true,decide_eq_true_eq] at hw
      exact hw.1
    have hempty : ¬a.settle.dispatcher.places ≤ a.settle.dispatcher.queue.length := by
      rw [Agent.settle_queue,Agent.settle_places,List.length_nil]
      omega
    have hplace : a.settle.waits = false := by simp [Agent.waits,hempty]
    have hready : a.settle.ready = a.ready := by
      unfold Agent.ready
      rw [if_neg hempty,if_pos hfull]
    rw [run_append,run_settle _ rfl,run_queue msg ms hplace,Agent.dispatch_congr msg hready]

theorem run_handleEvent (e : Event) (hp : 0 < a.dispatcher.places) :
    ∃ xs,run (.hear e :: xs) ⟨a,[]⟩ = ⟨a.handleEvent e,[]⟩ := by
  have hh : run [.hear e] ⟨a,[]⟩ = hear e ⟨a,[]⟩ := rfl
  unfold Agent.handleEvent
  rcases hs : Agent.subject a.chain.meterId e a.meter with ⟨found,m⟩
  simp only [hear,hs] at hh
  cases found with
  | none => exact ⟨[],hh⟩
  | some info =>
    obtain ⟨k,hk⟩ := run_dispatch (a := { a with meter := m }) (.change (e.change info)) [] hp
    refine ⟨List.replicate k .work++[.queue],?_⟩
    rw [← List.singleton_append,run_append,hh]
    exact hk

section

omit [Backend ρ]

theorem hear_free (h : r.outgoing = []) (e : Event) :
    r.hear e =
      { agent := { r.agent with
          meter := (Agent.subject r.agent.chain.meterId e r.agent.meter).2 }
        outgoing := ((Agent.subject r.agent.chain.meterId e r.agent.meter).1.map
          fun info => .change (e.change info)).toList } := by
  simp only [hear,h]

theorem hear_busy (h : r.outgoing ≠ []) (e : Event) : r.hear e = r := by
  rcases ho : r.outgoing with _ | ⟨msg,ms⟩
  · exact absurd ho h
  · simp only [hear,ho]

theorem hear_dispatcher (e : Event) (r : Relay δ ρ) :
    (r.hear e).agent.dispatcher = r.agent.dispatcher := by
  unfold hear
  split <;> rfl

theorem hear_core (h : r.outgoing = []) (e : Event) :
    (r.hear e).agent.meter.core = (r.agent.meter.core.subject e).2 := by
  rw [hear_free h,← Agent.outcome_subject r.agent.chain.meterId e r.agent.meter]

theorem hear_outgoing (h : r.outgoing = []) (e : Event) :
    (r.hear e).outgoing =
      ((r.agent.meter.core.subject e).1.map fun info => .change (e.change info)).toList := by
  rw [hear_free h,← Agent.outcome_subject r.agent.chain.meterId e r.agent.meter]

omit [ContainerRuntime δ] in
theorem pass_agent (x : Sample) (r : Relay δ ρ) : (r.pass x).agent = r.agent := by
  unfold pass
  split <;> rfl

end

theorem queue_crew (r : Relay δ ρ) : r.queue.agent.crew = r.agent.crew := by
  unfold queue
  split
  · rfl
  · split
    · rfl
    · rename_i hw
      exact Agent.crew_queued _ (by simpa using hw)

theorem take_idle (x : Stride δ ρ) (h : r.agent.crew.workers = 0) :
    (x.take r).agent.crew.workers = 0 := by
  cases x with
  | hear e =>
    have hd := hear_dispatcher e r
    exact (congrArg (fun d : Dispatcher => d.rota.length) hd).trans h
  | pass x =>
    show (r.pass x).agent.crew.workers = 0
    rw [pass_agent]
    exact h
  | queue =>
    show r.queue.agent.crew.workers = 0
    rw [queue_crew]
    exact h
  | work =>
    show r.agent.work.crew.workers = 0
    rw [Agent.crew_work,Crew.sendAll_idle h]
    exact h
  | incident o => exact h

variable [FaithfulRuntime δ]

theorem take_steady (h : r.agent.meter.core.Steady) (hx : x.Valid) :
    (x.take r).agent.meter.core.Steady := by
  cases x with
  | hear e =>
    show (r.hear e).agent.meter.core.Steady
    by_cases ho : r.outgoing = []
    · rw [hear_core ho]
      exact h.subject e
    · rw [hear_busy ho]
      exact h
  | pass x =>
    show (r.pass x).agent.meter.core.Steady
    rw [pass_agent]
    exact h
  | queue =>
    show r.queue.agent.crew.core.Steady
    rw [queue_crew]
    exact h
  | work =>
    show r.agent.work.crew.core.Steady
    rw [Agent.crew_work]
    rcases r.agent.dispatcher.queue with _ | ⟨msg,ms⟩
    · exact h
    · exact Crew.send_steady (c := r.agent.crew) h r.agent.chain.meterId msg
  | incident o => exact Incident.take_steady h hx

/-- Whether a container will be registered once all that is on its way has been sent. -/
def foresees (n : String) (r : Relay δ ρ) : Bool :=
  (r.agent.meter.registry.heedAll (r.agent.dispatcher.queue++r.outgoing)).isRegistered n

omit [Backend ρ] in
theorem foresees_hear (h : r.agent.meter.core.Steady) (hn : n ≠ e.containerName) :
    (r.hear e).foresees n = r.foresees n := by
  by_cases ho : r.outgoing = []
  · obtain ⟨hreg,hpol⟩ := Core.subject_other h hn
    have hout : ∀ msg ∈ (r.hear e).outgoing,msg.name? ≠ some n := by
      intro msg hmem hmsg
      rw [hear_outgoing ho] at hmem
      obtain ⟨info,hi,rfl⟩ := Option.map_eq_some_iff.mp (Option.mem_toList.mp hmem)
      have hname : info.name = e.containerName := Core.subject_name h hi
      have hinfo : info.name = n := Option.some.inj hmsg
      exact hn (hinfo.symm.trans hname)
    have hr : (r.hear e).agent.meter.registry = (r.agent.meter.core.subject e).2.registry :=
      congrArg Core.registry (hear_core ho e)
    unfold foresees
    rw [Registry.heedAll_append,Registry.isRegistered_heedAll_other hout,hear_dispatcher,ho,
      List.append_nil,hr]
    exact Registry.isRegistered_heedAll_congr hpol hreg _
  · rw [hear_busy ho]

omit [ContainerRuntime δ] [FaithfulRuntime δ] [Backend ρ] in
theorem foresees_pass (x : Sample) (r : Relay δ ρ) : (r.pass x).foresees n = r.foresees n := by
  unfold pass
  split
  · rfl
  · rename_i ho
    unfold foresees
    rw [ho,List.append_nil,Registry.heedAll_append]
    rfl

omit [FaithfulRuntime δ] in
theorem foresees_queue (h : r.agent.crew.workers ≠ 0) : r.queue.foresees n = r.foresees n := by
  have ho : r.agent.dispatcher.isClosed = false := by
    rw [← Bool.not_eq_true,Dispatcher.isClosed_iff]
    exact h
  have hr : r.queue.agent.meter.registry = r.agent.meter.registry :=
    congrArg (fun c => c.core.registry) (queue_crew r)
  have hq : r.queue.agent.dispatcher.queue++r.queue.outgoing =
      r.agent.dispatcher.queue++r.outgoing := by
    unfold queue
    split
    · rfl
    · rename_i msg ms hout
      split
      · rfl
      · rename_i hw
        rw [Agent.queue_queued msg (by simpa using hw) ho,hout,List.append_assoc]
        rfl
  unfold foresees
  rw [hr,hq]

omit [FaithfulRuntime δ] in
theorem foresees_work (h : r.agent.crew.workers ≠ 0) :
    (Stride.work.take r).foresees n = r.foresees n := by
  have hc := Agent.crew_work r.agent
  have hq := Agent.work_queue r.agent
  have hf : (Stride.work.take r).foresees n =
      (r.agent.work.meter.registry.heedAll
        (r.agent.work.dispatcher.queue++r.outgoing)).isRegistered n := rfl
  rcases hqueue : r.agent.dispatcher.queue with _ | ⟨msg,ms⟩
  · rw [hqueue] at hc hq
    have hr : r.agent.work.meter.registry = r.agent.meter.registry :=
      congrArg (fun c => c.core.registry) hc
    rw [hf,hr,hq,foresees,hqueue]
    rfl
  · rw [hqueue] at hc hq
    have hsend : r.agent.work.crew.core = (r.agent.crew.core.send r.agent.chain.meterId msg).2 := by
      rw [hc]
      exact Crew.core_send h
    have hr : r.agent.work.meter.registry = r.agent.meter.registry.heed msg :=
      (congrArg Core.registry hsend).trans (Core.send_registry _ msg r.agent.crew.core)
    rw [hf,hr,hq,foresees,hqueue]
    rfl

/-- With somebody there to send it, what is on its way comes to the same across a stride. -/
theorem foresees_take (h : r.agent.meter.core.Steady) (hw : r.agent.crew.workers ≠ 0)
    (hx : x.Spares n) : (x.take r).foresees n = r.foresees n := by
  cases x with
  | hear e => exact foresees_hear h (hx e rfl).symm
  | pass x => exact foresees_pass x r
  | queue => exact foresees_queue hw
  | work => exact foresees_work hw
  | incident o =>
    have hr : (o.take r.agent.meter).registry = r.agent.meter.registry := o.take_registry _
    show ((o.take r.agent.meter).registry.heedAll _).isRegistered n = _
    rw [hr]
    rfl

theorem isRegistered_take_idle (h : r.agent.meter.core.Steady) (hw : r.agent.crew.workers = 0)
    (hx : x.Spares n) :
    (x.take r).agent.meter.registry.isRegistered n = r.agent.meter.registry.isRegistered n := by
  cases x with
  | hear e =>
    show (r.hear e).agent.meter.core.registry.isRegistered n = _
    by_cases ho : r.outgoing = []
    · rw [hear_core ho]
      exact (Core.subject_other h (hx e rfl).symm).1
    · rw [hear_busy ho]
      rfl
  | pass x =>
    show (r.pass x).agent.meter.registry.isRegistered n = _
    rw [pass_agent]
  | queue =>
    show r.queue.agent.crew.core.registry.isRegistered n = _
    rw [queue_crew]
    rfl
  | work =>
    show r.agent.work.crew.core.registry.isRegistered n = _
    rw [Agent.crew_work,Crew.sendAll_idle hw]
    rfl
  | incident o =>
    show (o.take r.agent.meter).registry.isRegistered n = _
    rw [o.take_registry]

theorem run_steady {xs : List (Stride δ ρ)} (hx : ∀ x ∈ xs,x.Valid)
    (h : r.agent.meter.core.Steady) : (run xs r).agent.meter.core.Steady := by
  induction xs generalizing r with
  | nil => exact h
  | cons x xs ih =>
    have hs := take_steady h (hx x List.mem_cons_self)
    exact ih (fun y hy => hx y (List.mem_cons_of_mem _ hy)) hs

omit [FaithfulRuntime δ] in
theorem run_idle (xs : List (Stride δ ρ)) (h : r.agent.crew.workers = 0) :
    (run xs r).agent.crew.workers = 0 := by
  induction xs generalizing r with
  | nil => exact h
  | cons x xs ih => exact ih (take_idle x h)

theorem foresees_run {xs : List (Stride δ ρ)} (hx : ∀ x ∈ xs,x.Valid ∧ x.Spares n)
    (h : r.agent.meter.core.Steady) (hw : (run xs r).agent.crew.workers ≠ 0) :
    (run xs r).foresees n = r.foresees n := by
  induction xs generalizing r with
  | nil => rfl
  | cons x xs ih =>
    have hr : r.agent.crew.workers ≠ 0 := fun hr => hw (run_idle (x :: xs) hr)
    obtain ⟨hv,hs⟩ := hx x List.mem_cons_self
    have htake := foresees_take h hr hs
    have hrest := ih (fun y hy => hx y (List.mem_cons_of_mem _ hy)) (take_steady h hv) hw
    exact hrest.trans htake

theorem isRegistered_run_idle {xs : List (Stride δ ρ)} (hx : ∀ x ∈ xs,x.Valid ∧ x.Spares n)
    (h : r.agent.meter.core.Steady) (hw : r.agent.crew.workers = 0) :
    (run xs r).agent.meter.registry.isRegistered n = r.agent.meter.registry.isRegistered n := by
  induction xs generalizing r with
  | nil => rfl
  | cons x xs ih =>
    obtain ⟨hv,hs⟩ := hx x List.mem_cons_self
    have htake := isRegistered_take_idle h hw hs
    have hrest := ih (fun y hy => hx y (List.mem_cons_of_mem _ hy)) (take_steady h hv) (take_idle x hw)
    exact hrest.trans htake

omit [FaithfulRuntime δ] [Backend ρ] in
theorem hear_stopped_registry (he : State.ofEvent e.type = .stopped) (r : Relay δ ρ) :
    (r.hear e).agent.meter.registry = r.agent.meter.registry := by
  by_cases ho : r.outgoing = []
  · have hc := hear_core ho e
    rw [Core.subject_stopped he] at hc
    exact congrArg Core.registry hc
  · rw [hear_busy ho]

omit [Backend ρ] in
theorem hear_stopped_foresees (h : r.agent.meter.core.Steady) (ho : r.outgoing = [])
    (he : State.ofEvent e.type = .stopped) :
    (r.hear e).foresees e.containerName =
      (!r.agent.meter.registry.isRegistered e.containerName &&
        (r.agent.meter.registry.heedAll r.agent.dispatcher.queue).isRegistered e.containerName) := by
  have hout := hear_outgoing ho e
  rw [Core.subject_stopped he,Meter.core_registry] at hout
  rw [foresees,hear_stopped_registry he,hear_dispatcher,hout,Registry.heedAll_append,
    Registry.isRegistered_eq r.agent.meter.registry]
  cases hg : r.agent.meter.registry.get? e.containerName with
  | none => rfl
  | some info =>
    have hname : info.name = e.containerName := h.keyed _ _ hg
    have hstop : (e.change info).state = .stopped := he
    show Registry.isRegistered (Registry.heed _ (.change (e.change info))) _ = _
    simp only [Registry.heed,hstop,if_true,Registry.isRegistered_drop]
    simp [Event.change,hname]

/-- A stop that the loop has heard of is lost when its container is registered only by what is still in
the queue then, and when nobody is there to send it. Otherwise the container ends neither registered nor
collected, whatever the loop and the worker do meanwhile. -/
theorem stop_lost_iff {heard settled : Relay δ ρ} {us vs : List (Stride δ ρ)}
    (hb : Watched.Blank r.agent.meter) (hv : FaithfulRuntime.Valid r.agent.meter.runtime)
    (hus : ∀ x ∈ us,x.Valid) (hvs : ∀ x ∈ vs,x.Valid ∧ x.Spares e.containerName)
    (he : State.ofEvent e.type = .stopped) (hheard : run us r = heard) (hfree : heard.outgoing = [])
    (hsettled : run (.hear e :: vs) heard = settled)
    (hdone : settled.agent.dispatcher.queue++settled.outgoing = []) :
    (settled.agent.dispatcher.isClosed = false →
      (settled.agent.meter.registry.isRegistered e.containerName = true ↔
        heard.agent.meter.registry.isRegistered e.containerName = false ∧
          (heard.agent.meter.registry.heedAll heard.agent.dispatcher.queue).isRegistered
            e.containerName = true)) ∧
      (heard.agent.dispatcher.isClosed = true →
        settled.agent.meter.registry.isRegistered e.containerName =
          heard.agent.meter.registry.isRegistered e.containerName) ∧
      (settled.agent.meter.collector.isCollecting e.containerName = true →
        settled.agent.meter.registry.isRegistered e.containerName = true) ∧
      (settled.agent.dispatcher.isClosed = false →
        (∀ c,.discovery c ∈ heard.agent.dispatcher.queue → c.name ≠ e.containerName) →
        settled.agent.meter.registry.isRegistered e.containerName = false ∧
          settled.agent.meter.collector.isCollecting e.containerName = false) := by
  have hs : heard.agent.meter.core.Steady := hheard ▸ run_steady hus (hb.steady hv)
  have hs' : (heard.hear e).agent.meter.core.Steady := take_steady (x := .hear e) hs trivial
  have hrun : run vs (heard.hear e) = settled := hsettled
  have htracks : settled.agent.meter.core.Tracks := by
    rw [← hrun]
    exact (run_steady (fun x hx => (hvs x hx).1) hs').tracks
  have hlost : settled.agent.dispatcher.isClosed = false →
      (settled.agent.meter.registry.isRegistered e.containerName = true ↔
        heard.agent.meter.registry.isRegistered e.containerName = false ∧
          (heard.agent.meter.registry.heedAll heard.agent.dispatcher.queue).isRegistered
            e.containerName = true) := by
    intro ho
    have hf : settled.foresees e.containerName = (heard.hear e).foresees e.containerName := by
      rw [← hrun]
      exact foresees_run hvs hs' (by rw [hrun]; exact Agent.crew_busy ho)
    rw [hear_stopped_foresees hs hfree he,foresees,hdone] at hf
    have hreg : settled.agent.meter.registry.isRegistered e.containerName = _ := hf
    rw [hreg]
    simp
  refine ⟨hlost,?_,htracks e.containerName,?_⟩
  · intro hc
    have hidle : (heard.hear e).agent.crew.workers = 0 :=
      take_idle (.hear e) (Agent.crew_idle hc)
    have hreg := isRegistered_run_idle hvs hs' hidle
    rw [hrun,hear_stopped_registry he] at hreg
    exact hreg
  · intro ho hfresh
    have hn : settled.agent.meter.registry.isRegistered e.containerName = false := by
      rw [← Bool.not_eq_true,hlost ho]
      rintro ⟨hn,hq⟩
      rw [Registry.isRegistered_heedAll_free hfresh hn] at hq
      cases hq
    refine ⟨hn,?_⟩
    rw [← Bool.not_eq_true]
    intro hc
    have hreg := htracks e.containerName hc
    rw [Meter.core_registry,hn] at hreg
    cases hreg

def beginning : Relay Fleet Inbox := ⟨.small,[.discovery Watched.web]⟩

/-- A container is deleted while its discovery waits in the queue, and is collected for good. -/
theorem stop_lost_beginning :
    (run [.queue,.hear Watched.webDeleted,.work] beginning).agent.meter.registry.isRegistered
        "web" = true ∧
      (run [.queue,.hear Watched.webDeleted,.work] beginning).agent.meter.collector.isCollecting
        "web" = true := by
  have hus : ∀ x ∈ ([.queue] : List (Stride Fleet Inbox)),x.Valid := by simp [Stride.Valid]
  have hvs : ∀ x ∈ ([.work] : List (Stride Fleet Inbox)),x.Valid ∧ x.Spares "web" := by
    simp [Stride.Valid,Stride.Spares]
  have h := stop_lost_iff (r := beginning) (e := Watched.webDeleted) Watched.small_blank
    (Fleet.keyed_ofContainers _) hus hvs rfl rfl (by decide) rfl (by decide)
  exact ⟨(h.1 (by decide)).mpr (by decide),by decide⟩

end Relay

end HostMeter
