import HostMeter.Proofs.Agent.Relay
import HostMeter.Proofs.Collector.Landmarks
set_option autoImplicit false

/-! The runs of an agent. Messages are sent one at a time; everything else may come in between, in its
smallest steps or in the larger works of the agent, and may fail as it likes. What the single works keep,
a run keeps. -/

namespace HostMeter

/-- What an agent does, and what happens around it. The parts of a start and of a shutdown can come one by
one, and so can those of a stop and the looks of single poll loops. -/
inductive Occurrence (δ ρ : Type)
  | start (s : DispatcherSettings)
  | prepare
  | discover
  | event (e : Event)
  | receive
  | queue (msg : Message)
  | forward
  | work
  | settle
  | deed (x : Metering.Deed)
  | instant (t : Nat)
  | advance (ms : Nat)
  | stopSampling
  | drain
  | shutdown
  /-- Anything may have become of the runtime, the backend and the clock. -/
  | turn (runtime : δ) (backend : ρ) (clock : Timestamp)

variable {δ ρ : Type}

def Meter.perform (x : Metering.Deed) (m : Meter δ ρ) : Meter δ ρ :=
  (m.sampling fun c => ((),x.take c)).2

variable [ContainerRuntime δ] [Backend ρ]

namespace Occurrence

def take : Occurrence δ ρ → Agent δ ρ → Agent δ ρ
  | .start s,a => (a.start s).2
  | .prepare,a => a.onMeter Agent.prepare
  | .discover,a => a.discover
  | .event e,a => a.handleEvent e
  | .receive,a => a.receive
  | .queue msg,a => a.dispatch msg
  | .forward,a => a.forward
  | .work,a => a.work
  | .settle,a => a.settle
  | .deed x,a => a.onMeter (·.perform x)
  | .instant t,a => a.onMeter (·.instant t)
  | .advance ms,a => a.advance ms
  | .stopSampling,a => a.onMeter Agent.stopSampling
  | .drain,a => a.drain.2
  | .shutdown,a => a.shutdown.2
  | .turn runtime backend clock,a => a.onMeter fun m => { m with runtime, backend, clock }

end Occurrence

namespace Agent

def run (xs : List (Occurrence δ ρ)) (a : Agent δ ρ) : Agent δ ρ := xs.foldl (fun a x => x.take a) a

/-- Two facts, one about meters and one about messages, that all the works of an agent keep together. That
of a meter depends on nothing but its registry, the entries of its collector and the two gauges. -/
structure Lasting (P : Meter δ ρ → Prop) (I : Message → Prop) : Prop where
  congr {m m' : Meter δ ρ} (h : P m) (registry : m'.registry = m.registry)
    (entries : m'.collector.entries = m.collector.entries)
    (tracked : m'.metrics.containersTracked = m.metrics.containersTracked)
    (active : m'.metrics.collectionsActive = m.metrics.collectionsActive) : P m'
  perform (x : Metering.Deed) {m : Meter δ ρ} (h : P m) : P (m.perform x)
  instant (t : Nat) {m : Meter δ ρ} (h : P m) : P (m.instant t)
  stopAll {m : Meter δ ρ} (h : P m) : P m.stopAll.2
  enlist (meterId : String) (e : Event) {m : Meter δ ρ} (h : P m) : P (enlist meterId e m).2
  send (s : ChainSettings) {msg : Message} (hi : I msg) {m : Meter δ ρ} (h : P m) : P (m.send s msg).2
  listed {runtime runtime' : δ} {cs : List Container}
    (h : ContainerRuntime.list runtime = (.done cs,runtime')) : ∀ c ∈ cs,I (.discovery c)
  change (c : StateChange) : I (.change c)
  sample (x : Sample) : I (.sample x)

/-- One fact holds of the meter, and the other of all that is queued. -/
structure Bears (P : Meter δ ρ → Prop) (I : Message → Prop) (a : Agent δ ρ) : Prop where
  meter : P a.meter
  queue : ∀ msg ∈ a.dispatcher.queue,I msg

namespace Lasting

variable {P : Meter δ ρ → Prop} {I : Message → Prop} {m : Meter δ ρ}

theorem note (h : Lasting P I) (n : Notice) (hm : P m) : P (note n m) := h.congr hm rfl rfl rfl rfl

theorem noteAll (h : Lasting P I) (ns : List Notice) (hm : P m) : P (m.noteAll ns) := by
  induction ns generalizing m with
  | nil => exact hm
  | cons n ns ih => exact ih (h.note n hm)

theorem unhealthy (h : Lasting P I) (component message : String) (hm : P m) :
    P (unhealthy component message m) := h.congr hm rfl rfl rfl rfl

theorem closeAll (h : Lasting P I) (is : List ChannelId) (hm : P m) : P (closeAll is m) := by
  induction is generalizing m with
  | nil => exact hm
  | cons i is ih => exact ih (m := m.closeChannel i) (h.congr hm rfl rfl rfl rfl)

theorem stopSampling (h : Lasting P I) (hm : P m) : P (stopSampling m) :=
  h.closeAll m.stopAll.1 (h.stopAll hm)

theorem prepare (h : Lasting P I) (hm : P m) : P (prepare m) := by
  simp only [Agent.prepare]
  split <;> exact h.congr hm rfl rfl rfl rfl

theorem subject (h : Lasting P I) (meterId : String) (e : Event) (hm : P m) :
    P (subject meterId e m).2 := by
  unfold Agent.subject
  split
  · exact hm
  · split
    · exact h.enlist meterId e hm
    · exact h.note _ hm

theorem process (h : Lasting P I) (s : ChainSettings) {msg : Message} (hi : I msg) (d : Dispatcher)
    (hm : P m) : P (d.process (Chain.standard s) msg m).2 := by
  have hc : P (count (·.incMessages msg.kind) m) := h.congr hm rfl rfl rfl rfl
  have hs : P (Pipeline.run (Chain.standard s) msg (count (·.incMessages msg.kind) m)).2 :=
    h.send s hi hc
  rcases hr : Pipeline.run (Chain.standard s) msg (count (·.incMessages msg.kind) m) with ⟨p,m'⟩
  rw [hr] at hs
  cases p with
  | failed e =>
    simp only [Dispatcher.process,hr]
    exact h.congr hs rfl rfl rfl rfl
  | through | stopped | crashed =>
    simp only [Dispatcher.process,hr]
    exact hs

theorem workOff (h : Lasting P I) (s : ChainSettings) {ms : List Message} (hi : ∀ msg ∈ ms,I msg)
    (d : Dispatcher) (hm : P m) : P (Dispatcher.workOff (Chain.standard s) ms d m).2 := by
  induction ms generalizing d m with
  | nil => exact hm
  | cons msg ms ih =>
    cases hd : d.isClosed with
    | true =>
      rw [Dispatcher.workOff_closed _ m hd]
      exact hm
    | false =>
      rw [Dispatcher.workOff_cons msg ms m hd]
      exact ih (fun msg hmem => hi msg (List.mem_cons_of_mem _ hmem)) _
        (h.process s (hi msg List.mem_cons_self) d hm)

variable {a : Agent δ ρ}

theorem settle (h : Lasting P I) (ha : a.Bears P I) : a.settle.Bears P I where
  meter := h.workOff a.chain ha.queue { a.dispatcher with queue := [] } ha.meter
  queue := by
    rw [settle_queue]
    exact List.forall_mem_nil I

theorem work (h : Lasting P I) (ha : a.Bears P I) : a.work.Bears P I where
  meter := h.workOff a.chain (fun msg hmem => ha.queue msg (List.mem_of_mem_take hmem))
    { a.dispatcher with queue := a.dispatcher.queue.tail } ha.meter
  queue msg hmem := by
    rw [work_queue] at hmem
    exact ha.queue msg (List.mem_of_mem_tail hmem)

theorem dispatch (h : Lasting P I) (ha : a.Bears P I) {msg : Message} (hi : I msg) :
    (a.dispatch msg).Bears P I := by
  -- whoever finds no place waits until the queue is worked off
  have hr : a.ready.Bears P I := by
    unfold ready
    split
    · exact h.settle ha
    · exact ha
  cases hc : a.ready.dispatcher.isClosed with
  | false =>
    rw [dispatch_accepted msg hc]
    exact ⟨hr.meter,List.forall_mem_append.mpr ⟨hr.queue,List.forall_mem_singleton.mpr hi⟩⟩
  | true =>
    rw [dispatch_refused msg hc]
    exact ⟨h.unhealthy _ _ (h.note _ hr.meter),hr.queue⟩

theorem dispatchAll (h : Lasting P I) (ha : a.Bears P I) {ms : List Message} (hi : ∀ msg ∈ ms,I msg) :
    (a.dispatchAll ms).Bears P I := by
  induction ms generalizing a with
  | nil => exact ha
  | cons msg ms ih =>
    exact ih (h.dispatch ha (hi msg List.mem_cons_self)) fun msg hmem =>
      hi msg (List.mem_cons_of_mem _ hmem)

theorem handleEvent (h : Lasting P I) (ha : a.Bears P I) (e : Event) : (a.handleEvent e).Bears P I := by
  have hs := h.subject a.chain.meterId e ha.meter
  unfold Agent.handleEvent
  rcases hm : Agent.subject a.chain.meterId e a.meter with ⟨found,m⟩
  rw [hm] at hs
  cases found with
  | some info => exact h.dispatch (a := { a with meter := m }) ⟨hs,ha.queue⟩ (h.change _)
  | none => exact ⟨hs,ha.queue⟩

theorem handleEvents (h : Lasting P I) (ha : a.Bears P I) (es : List Event) :
    (a.handleEvents es).Bears P I := by
  induction es generalizing a with
  | nil => exact ha
  | cons e es ih => exact ih (h.handleEvent ha e)

theorem receive (h : Lasting P I) (ha : a.Bears P I) : a.receive.Bears P I := by
  cases hw : a.watch with
  | none =>
    simp only [Agent.receive,hw]
    exact ha
  | some w =>
    rcases ht : ContainerRuntime.takeEvents w a.meter.runtime with ⟨batch,runtime⟩
    have he := h.handleEvents (a := { a with meter := { a.meter with runtime } })
      ⟨h.congr ha.meter rfl rfl rfl rfl,ha.queue⟩ batch.events
    simp only [Agent.receive,hw,ht]
    rw [hw] at he
    split
    · exact ⟨h.unhealthy _ _ (h.note _ he.meter),he.queue⟩
    · exact he

theorem forward (h : Lasting P I) (ha : a.Bears P I) : a.forward.Bears P I := by
  refine h.dispatchAll (a := { a with meter := a.meter.drainStream.2 })
    ⟨h.congr ha.meter rfl rfl rfl rfl,ha.queue⟩ fun msg hmem => ?_
  obtain ⟨x,-,rfl⟩ := List.mem_map.mp hmem
  exact h.sample x

theorem idle (h : Lasting P I) (ha : a.Bears P I) : a.idle.Bears P I :=
  h.settle (h.forward (h.settle (h.receive ha)))

theorem advance (h : Lasting P I) (ha : a.Bears P I) (ms : Nat) : (a.advance ms).Bears P I :=
  Clock.runTo_induction (P := fun a : Agent δ ρ => a.Bears P I)
    (fun t b hb => h.idle (a := b.onMeter (·.instant t)) ⟨h.instant t hb.meter,hb.queue⟩) _ _ a ha

theorem discover (h : Lasting P I) (ha : a.Bears P I) : a.discover.Bears P I := by
  rcases hl : ContainerRuntime.list a.meter.runtime with ⟨o,runtime⟩
  have hr : P { a.meter with runtime } := h.congr ha.meter rfl rfl rfl rfl
  simp only [Agent.discover,hl]
  cases o with
  | done cs =>
    have hd := h.dispatchAll (a := { a with meter := { a.meter with runtime } }) ⟨hr,ha.queue⟩
      (List.forall_mem_map.mpr (h.listed hl))
    exact ⟨h.note _ hd.meter,hd.queue⟩
  | failed e => exact ⟨h.note _ (h.note _ hr),ha.queue⟩
  | crashed => exact ⟨hr,ha.queue⟩

theorem drain (h : Lasting P I) (ha : a.Bears P I) : a.drain.2.Bears P I where
  meter := h.noteAll _ (h.settle ha).meter
  queue := (h.settle ha).queue

theorem start (h : Lasting P I) (ha : a.Bears P I) (s : DispatcherSettings) :
    (a.start s).2.Bears P I := by
  have hp : P (Dispatcher.start s (Agent.prepare a.meter)).2 := h.note _ (h.prepare ha.meter)
  have hq : ∀ msg ∈ (Dispatcher.start s (Agent.prepare a.meter)).1.queue,I msg := List.forall_mem_nil I
  rcases hd : Dispatcher.start s (Agent.prepare a.meter) with ⟨d,m⟩
  rw [hd] at hp hq
  rcases hw : ContainerRuntime.watch watchedTypes m.runtime with ⟨o,runtime⟩
  have hr : P { m with runtime } := h.congr hp rfl rfl rfl rfl
  simp only [Agent.start,hd,hw]
  cases o with
  | done w =>
    have hb := h.discover (a := { a with dispatcher := d, meter := { m with runtime }, watch := some w })
      ⟨hr,hq⟩
    exact ⟨h.congr hb.meter rfl rfl rfl rfl,hb.queue⟩
  | failed e => exact h.drain (a := { a with dispatcher := d, meter := _ }) ⟨h.unhealthy _ _ hr,hq⟩
  | crashed => exact ⟨hr,hq⟩

theorem shutdown (h : Lasting P I) (ha : a.Bears P I) : a.shutdown.2.Bears P I := by
  have hh : P a.halted := h.stopSampling (h.congr ha.meter rfl rfl rfl rfl)
  let stops := a.meter.registry.list.map fun c =>
    Message.change (.ofEvent (.meterShutdown c a.halting.meter.clock))
  have hs : ∀ msg ∈ stops,I msg := List.forall_mem_map.mpr fun _ _ => h.change _
  have hl := h.drain (h.dispatchAll (a := a.halting) ⟨h.note _ hh,ha.queue⟩ hs)
  exact ⟨h.note _ (h.stopSampling hl.meter),hl.queue⟩

theorem take (h : Lasting P I) (ha : a.Bears P I) {x : Occurrence δ ρ}
    (hx : ∀ msg,x = .queue msg → I msg) : (x.take a).Bears P I := by
  cases x with
  | start s => exact h.start ha s
  | prepare => exact ⟨h.prepare ha.meter,ha.queue⟩
  | discover => exact h.discover ha
  | event e => exact h.handleEvent ha e
  | receive => exact h.receive ha
  | queue msg => exact h.dispatch ha (hx msg rfl)
  | forward => exact h.forward ha
  | work => exact h.work ha
  | settle => exact h.settle ha
  | deed x => exact ⟨h.perform x ha.meter,ha.queue⟩
  | instant t => exact ⟨h.instant t ha.meter,ha.queue⟩
  | advance ms => exact h.advance ha ms
  | stopSampling => exact ⟨h.stopSampling ha.meter,ha.queue⟩
  | drain => exact h.drain ha
  | shutdown => exact h.shutdown ha
  | turn runtime backend clock => exact ⟨h.congr ha.meter rfl rfl rfl rfl,ha.queue⟩

theorem run (h : Lasting P I) (ha : a.Bears P I) {xs : List (Occurrence δ ρ)}
    (hx : ∀ msg,.queue msg ∈ xs → I msg) : (a.run xs).Bears P I := by
  induction xs generalizing a with
  | nil => exact ha
  | cons x xs ih =>
    refine ih (h.take ha fun msg hq => ?_) fun msg hmem => hx msg (List.mem_cons_of_mem _ hmem)
    exact hx msg (hq ▸ List.mem_cons_self)

end Lasting

end Agent

end HostMeter
