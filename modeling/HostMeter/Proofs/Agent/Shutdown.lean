import HostMeter.Proofs.Agent.Queue
import HostMeter.Proofs.Chain.Handed
import HostMeter.Proofs.Chain.Run
set_option autoImplicit false

/-! What a shutdown leaves behind. It stops all sampling, queues a stop for every container that is
tracked at that moment, and works the queue off. Containers that a queued discovery registers behind
the snapshot stay tracked and get no stop; the same holds of those whose stops are still queued when
the last worker is gone. -/

namespace HostMeter

namespace Registry

variable {r : Registry}

def heedAll (ms : List Message) (r : Registry) : Registry := ms.foldl heed r

theorem heedAll_append (ms ns : List Message) (r : Registry) :
    r.heedAll (ms++ns) = (r.heedAll ms).heedAll ns := List.foldl_append

theorem Keyed.heedAll (h : r.Keyed) (ms : List Message) : (r.heedAll ms).Keyed := by
  induction ms generalizing r with
  | nil => exact h
  | cons msg ms ih => exact ih (h.heed msg)

def gained (n : String) : List Message → Registry → Nat
  | [],_ => 0
  | msg :: ms,r => r.gains n msg+gained n ms (r.heed msg)

def finalStop (now : Timestamp) (c : Container) : Message := .change (.ofEvent (.meterShutdown c now))

theorem heed_finalStop (now : Timestamp) (c : Container) (r : Registry) :
    r.heed (finalStop now c) = (r.drop c.name).2 := rfl

theorem isRegistered_finalStops (now : Timestamp) (cs : List Container) (r : Registry) (n : String) :
    (r.heedAll (cs.map (finalStop now))).isRegistered n = true ↔
      r.isRegistered n = true ∧ ∀ c ∈ cs,c.name ≠ n := by
  induction cs generalizing r with
  | nil => simp [heedAll]
  | cons c cs ih =>
    have hc := ih (r.drop c.name).2
    rw [isRegistered_drop] at hc
    show ((r.heed (finalStop now c)).heedAll (cs.map (finalStop now))).isRegistered n = true ↔ _
    rw [heed_finalStop,hc]
    simp only [Bool.and_eq_true,decide_eq_true_eq,List.mem_cons,forall_eq_or_imp]
    constructor
    · rintro ⟨⟨hn,hr⟩,h⟩
      exact ⟨hr,fun he => hn he.symm,h⟩
    · rintro ⟨hr,hn,h⟩
      exact ⟨⟨fun he => hn he.symm,hr⟩,h⟩

theorem mem_list_iff (h : r.Keyed) (n : String) :
    (∃ c ∈ r.list,c.name = n) ↔ r.isRegistered n = true := by
  rw [isRegistered_eq,Option.isSome_iff_exists]
  constructor
  · rintro ⟨c,hc,rfl⟩
    obtain ⟨m,hm⟩ := Table.mem_values_iff.mp hc
    have hn : c.name = m := h m c hm
    exact ⟨c,by rw [hn]; exact hm⟩
  · rintro ⟨c,hc⟩
    exact ⟨c,Table.mem_values_iff.mpr ⟨n,hc⟩,h n c hc⟩

end Registry

namespace Core

variable {δ ρ : Type} [ContainerRuntime δ] [Backend ρ] {meterId : String}

theorem sendAll_registry (ms : List Message) (k : Core δ ρ) :
    (k.sendAll meterId ms).registry = k.registry.heedAll ms := by
  induction ms generalizing k with
  | nil => rfl
  | cons msg ms ih =>
    rw [sendAll_cons,ih,send_registry]
    rfl

/-- Over a list of messages, the registrations of a name and the stops about it are in balance. -/
theorem sendAll_balance (meterId : String) (ms : List Message) {k : Core δ (Tapped ρ)}
    (ho : k.Orderly) (hw : k.collector.CanWait) (hu : k.collector.Unharmed) (hm : ∀ r,.report r ∉ ms) :
    ∃ rs,(k.sendAll meterId ms).backend.handed = k.backend.handed++rs ∧
      ∀ n,Registry.gained n ms k.registry+k.registry.holds n =
        Report.stops n rs+(k.registry.heedAll ms).holds n := by
  induction ms generalizing k with
  | nil => exact ⟨[],(List.append_nil _).symm,fun n => rfl⟩
  | cons msg ms ih =>
    have hr : ∀ r,msg ≠ .report r := fun r he => hm r (he ▸ List.mem_cons_self)
    obtain ⟨rs,hh,hs,-⟩ := handed_send meterId ho.keyed ho.sound hu hr
    obtain ⟨hw',hu'⟩ := send_unharmed meterId ho.sound hw hu msg
    obtain ⟨ss,hh',hb⟩ := ih (ho.send meterId msg) hw' hu'
      (fun r he => hm r (List.mem_cons_of_mem _ he))
    refine ⟨rs++ss,?_,?_⟩
    · rw [sendAll_cons,hh',hh,List.append_assoc]
    · intro n
      have h := k.registry.heed_balance msg n
      have h' := hb n
      rw [send_registry] at h'
      rw [Report.stops_append,hs n]
      show k.registry.gains n msg+Registry.gained n ms (k.registry.heed msg)+_ =
        _+((k.registry.heed msg).heedAll ms).holds n
      omega

end Core

namespace Agent

variable {δ ρ : Type}

theorem core_closeAll (is : List ChannelId) (m : Meter δ ρ) :
    ∃ channels,(closeAll is m).core =
      { m.core with collector := { m.collector with channels } } := by
  induction is generalizing m with
  | nil => exact ⟨m.collector.channels,rfl⟩
  | cons i is ih =>
    obtain ⟨channels,h⟩ := ih (m.closeChannel i)
    exact ⟨channels,h⟩

theorem core_stopSampling {m : Meter δ ρ} (h : m.collector.Sound) :
    ∃ channels,(stopSampling m).core =
      { m.core with collector := { m.collector with channels, entries := .empty, loops := [] } } := by
  have hk : m.stopAll.2.core =
      { m.core with collector := { m.collector with entries := .empty, loops := [] } } := by
    rw [← h.stopAll_eq]
    exact Meter.core_sampling Collector.stopAll m
  have hcol : m.stopAll.2.collector = { m.collector with entries := .empty, loops := [] } :=
    congrArg Core.collector hk
  obtain ⟨channels,hc⟩ := core_closeAll m.stopAll.1 m.stopAll.2
  rw [hk,hcol] at hc
  exact ⟨channels,hc⟩

variable [ContainerRuntime δ] [Backend ρ] {a : Agent δ ρ}

def halted (a : Agent δ ρ) : Meter δ ρ :=
  let runtime := match a.watch with
    | some w => ContainerRuntime.unwatch w a.meter.runtime
    | none => a.meter.runtime
  stopSampling { a.meter with runtime }

def halting (a : Agent δ ρ) : Agent δ ρ :=
  { a with
    meter := note (.reportingStopped a.meter.registry.list.length) a.halted
    watch := none }

def finalStops (a : Agent δ ρ) : List Message :=
  a.meter.registry.list.map (Registry.finalStop a.meter.clock)

def worked (a : Agent δ ρ) : List Message :=
  a.halting.crew.sent a.chain.meterId (a.dispatcher.queue++a.finalStops)

def caughtUp (a : Agent δ ρ) : List Message := a.halting.crew.sent a.chain.meterId a.dispatcher.queue

/-- The containers whose final stops are sent: all that are tracked as the shutdown begins, unless the
last worker crashes. -/
def seenOff (a : Agent δ ρ) : List Container :=
  let left := a.halting.crew.sendAll a.chain.meterId a.dispatcher.queue
  a.meter.registry.list.take (left.sent a.chain.meterId a.finalStops).length

/-- A container that a shutdown leaves tracked: it is so behind the queue, and its final stop is not
sent. -/
def Leftover (a : Agent δ ρ) (n : String) : Prop :=
  (a.meter.registry.heedAll a.caughtUp).isRegistered n = true ∧ ∀ c ∈ a.seenOff,c.name ≠ n

instance (a : Agent δ ρ) (n : String) : Decidable (a.Leftover n) :=
  inferInstanceAs (Decidable ((a.meter.registry.heedAll a.caughtUp).isRegistered n = true ∧
    ∀ c ∈ a.seenOff,c.name ≠ n))

theorem worked_eq (a : Agent δ ρ) :
    a.worked = a.caughtUp++a.seenOff.map (Registry.finalStop a.meter.clock) := by
  rw [worked,Crew.sent_append,caughtUp,seenOff,List.map_take]
  congr 1
  exact List.prefix_iff_eq_take.mp (Crew.sent_prefix a.chain.meterId a.finalStops _)

theorem isRegistered_worked (a : Agent δ ρ) (n : String) :
    (a.meter.registry.heedAll a.worked).isRegistered n = true ↔ a.Leftover n := by
  rw [worked_eq,Registry.heedAll_append,Registry.isRegistered_finalStops,Leftover]

theorem no_report_worked (h : ∀ r,.report r ∉ a.dispatcher.queue) : ∀ r,.report r ∉ a.worked := by
  intro r hr
  rw [worked_eq] at hr
  rcases List.mem_append.mp hr with hr | hr
  · exact h r ((Crew.sent_prefix a.chain.meterId a.dispatcher.queue _).subset hr)
  · obtain ⟨c,-,hc⟩ := List.mem_map.mp hr
    cases hc

omit [Backend ρ] in
theorem core_halting (h : a.meter.collector.Sound) :
    ∃ runtime channels,a.halting.crew.core =
      { a.meter.core with
        runtime
        collector := { a.meter.collector with channels, entries := .empty, loops := [] } } := by
  obtain ⟨channels,hc⟩ := core_stopSampling (m := { a.meter with runtime := match a.watch with
    | some w => ContainerRuntime.unwatch w a.meter.runtime
    | none => a.meter.runtime }) h
  have hn := Meter.core_note (.reportingStopped a.meter.registry.list.length) a.halted
  exact ⟨_,channels,hn.trans hc⟩

/-- The agent with its final stops queued behind all else, and its queue worked off. -/
def drained (a : Agent δ ρ) : Agent δ ρ := (a.halting.dispatchAll a.finalStops).drain.2

theorem crew_drain (a : Agent δ ρ) : a.drain.2.crew = a.outlook := by
  rw [← crew_settle]
  have hk := Meter.core_noteAll (a.dispatcher.settle a.filters a.meter).1.closingNotices
    (a.dispatcher.settle a.filters a.meter).2
  exact congrArg (fun k => Crew.mk k a.settle.dispatcher.rota.length) hk

theorem crew_drained (a : Agent δ ρ) :
    a.drained.crew = a.halting.crew.sendAll a.chain.meterId (a.dispatcher.queue++a.finalStops) := by
  rw [drained,crew_drain,outlook_dispatchAll,Crew.sendAll_append]
  rfl

theorem core_drained (a : Agent δ ρ) :
    a.drained.meter.core = a.halting.crew.core.sendAll a.chain.meterId a.worked := by
  rw [worked,← Crew.core_sendAll,← crew_drained]
  rfl

theorem orderly_drained (h : a.meter.core.Orderly) : a.drained.meter.core.Orderly := by
  obtain ⟨runtime,channels,hk⟩ := core_halting h.sound
  rw [core_drained,hk]
  refine Core.sendAll_keeps (P := fun k => k.Orderly) a.chain.meterId
    (fun msg k hk => hk.send a.chain.meterId msg) a.worked ?_
  exact ⟨h.keyed,Collector.sound_of_empty rfl rfl⟩

theorem shutdown_eq (h : a.meter.core.Orderly) :
    ∃ n,(a.shutdown).2 = a.drained.onMeter fun m => note n (stopSampling m) := by
  obtain ⟨runtime,channels,hk⟩ := core_halting h.sound
  have hc : a.halted.clock = a.meter.clock := congrArg Core.clock hk
  have hf : a.finalStops = a.meter.registry.list.map (Registry.finalStop a.halted.clock) := by
    rw [finalStops,hc]
  rw [drained,hf]
  exact ⟨_,rfl⟩

theorem core_shutdown (h : a.meter.core.Orderly) :
    (a.shutdown).2.dispatcher = a.drained.dispatcher ∧ ∃ channels,(a.shutdown).2.meter.core =
      { a.drained.meter.core with
        collector := { a.drained.meter.collector with channels, entries := .empty, loops := [] } } := by
  obtain ⟨n,hs⟩ := shutdown_eq h
  obtain ⟨channels,hc⟩ := core_stopSampling (orderly_drained h).sound
  rw [hs]
  refine ⟨rfl,channels,?_⟩
  rw [← hc]
  exact Meter.core_note n (stopSampling a.drained.meter)

theorem shutdown_registry (h : a.meter.core.Orderly) :
    (a.shutdown).2.meter.registry = a.meter.registry.heedAll a.worked := by
  obtain ⟨-,channels,hs⟩ := core_shutdown h
  obtain ⟨runtime,opened,hh⟩ := core_halting h.sound
  have hr : a.halting.crew.core.registry = a.meter.registry := congrArg Core.registry hh
  rw [← Meter.core_registry,hs,core_drained,Core.sendAll_registry,hr]

theorem leftover_of_open (h : a.meter.core.Orderly) (ho : (a.shutdown).2.dispatcher.isClosed = false)
    (n : String) : a.Leftover n ↔
      (a.meter.registry.heedAll a.dispatcher.queue).isRegistered n = true ∧
        a.meter.registry.isRegistered n = false := by
  rw [(core_shutdown h).1] at ho
  have hw := crew_busy ho
  rw [crew_drained] at hw
  have ha : a.worked = a.dispatcher.queue++a.finalStops := Crew.sent_all hw
  rw [← isRegistered_worked,ha,Registry.heedAll_append,finalStops,Registry.isRegistered_finalStops]
  refine and_congr Iff.rfl ?_
  rw [← Bool.not_eq_true,← Registry.mem_list_iff (r := a.meter.registry) h.keyed]
  simp

theorem leftover_of_closed (h : a.dispatcher.isClosed = true) (n : String) :
    a.Leftover n ↔ a.meter.registry.isRegistered n = true := by
  have hw : a.worked = [] := Crew.sent_idle (crew_idle (a := a.halting) h)
  rw [← isRegistered_worked,hw]
  rfl

end Agent

namespace WatchedAgent

variable {δ ρ : Type} [ContainerRuntime δ] [Backend ρ] {a : WatchedAgent δ ρ}

/-- Among the containers that are tracked at some point of a shutdown and not registered again, those
that are left over and no others get no stop from there on. -/
theorem stops_shutdown (h : a.meter.core.Orderly) (hw : a.meter.collector.CanWait)
    (hq : ∀ r,.report r ∉ a.dispatcher.queue) {us vs : List Message}
    (huv : Agent.worked a = us++vs) :
    ∃ rs,(Agent.shutdown a).2.meter.backend.handed =
        ((Agent.halting a).crew.core.sendAll a.chain.meterId us).backend.handed++rs ∧
      ∀ n,(a.meter.registry.heedAll us).isRegistered n = true →
        Registry.gained n vs (a.meter.registry.heedAll us) = 0 →
        ((∃ r ∈ rs,r.isStopOf n = true) ↔ ¬Agent.Leftover a n) := by
  obtain ⟨-,channels,hs⟩ := Agent.core_shutdown h
  obtain ⟨runtime,opened,hh⟩ := Agent.core_halting h.sound
  have hr : (Agent.halting a).crew.core.registry = a.meter.registry := congrArg Core.registry hh
  have hno := Agent.no_report_worked hq
  rw [huv] at hno
  have hP : (Agent.halting a).crew.core.Orderly ∧ (Agent.halting a).crew.core.collector.CanWait ∧
      (Agent.halting a).crew.core.collector.Unharmed := by
    rw [hh]
    refine ⟨⟨h.keyed,Collector.sound_of_empty rfl rfl⟩,hw,?_⟩
    intro l hmem
    cases hmem
  -- Loops that can wait do not crash, so that the whole drain finds them unharmed.
  obtain ⟨ho',hw',hu'⟩ := Core.sendAll_keeps a.chain.meterId
    (P := fun k => k.Orderly ∧ k.collector.CanWait ∧ k.collector.Unharmed)
    (fun msg k ⟨ho,hw,hu⟩ => ⟨ho.send _ msg,Core.send_unharmed _ ho.sound hw hu msg⟩) us hP
  obtain ⟨rs,hrs,hb⟩ := Core.sendAll_balance a.chain.meterId vs ho' hw' hu'
    (fun r hmem => hno r (List.mem_append_right _ hmem))
  refine ⟨rs,?_,?_⟩
  · rw [← Meter.core_backend,hs,Agent.core_drained,huv,Core.sendAll_append]
    exact hrs
  · intro n hn hg
    have hbal := hb n
    rw [Core.sendAll_registry,hr,hg,← Registry.heedAll_append,← huv,Nat.zero_add] at hbal
    rw [← Agent.isRegistered_worked,Bool.not_eq_true]
    apply Report.exists_stop_iff
    exact hbal.symm.trans (congrArg Bool.toNat hn)

/-- A shutdown leaves nothing sampled. What it leaves tracked is left over from a queue that registers
containers behind the snapshot or is not worked off, and of what is tracked, that alone gets no stop. -/
theorem shutdown_leaves (h : a.meter.core.Orderly) :
    (Agent.shutdown a).2.meter.collector.entries = .empty ∧
      (Agent.shutdown a).2.meter.collector.loops = [] ∧
      (∀ n,(Agent.shutdown a).2.meter.registry.isRegistered n = true ↔ Agent.Leftover a n) ∧
      ((Agent.shutdown a).2.dispatcher.isClosed = false → ∀ n,Agent.Leftover a n ↔
        (a.meter.registry.heedAll a.dispatcher.queue).isRegistered n = true ∧
          a.meter.registry.isRegistered n = false) ∧
      (a.dispatcher.isClosed = true → ∀ n,Agent.Leftover a n ↔
        a.meter.registry.isRegistered n = true) ∧
      (a.meter.collector.CanWait → (∀ r,.report r ∉ a.dispatcher.queue) →
        ∀ us vs,Agent.worked a = us++vs →
          ∃ rs,(Agent.shutdown a).2.meter.backend.handed =
              ((Agent.halting a).crew.core.sendAll a.chain.meterId us).backend.handed++rs ∧
            ∀ n,(a.meter.registry.heedAll us).isRegistered n = true →
              Registry.gained n vs (a.meter.registry.heedAll us) = 0 →
              ((∃ r ∈ rs,r.isStopOf n = true) ↔ ¬Agent.Leftover a n)) := by
  obtain ⟨-,channels,hs⟩ := Agent.core_shutdown h
  refine ⟨?_,?_,?_,Agent.leftover_of_open h,Agent.leftover_of_closed,?_⟩
  · rw [← Meter.core_collector,hs]
  · rw [← Meter.core_collector,hs]
  · intro n
    rw [Agent.shutdown_registry h]
    exact Agent.isRegistered_worked a n
  · intro hw hq us vs huv
    exact stops_shutdown h hw hq huv

def waiting : WatchedAgent Fleet Inbox :=
  { small with dispatcher := { small.dispatcher with queue := [.discovery Watched.web] } }

/-- A container whose discovery is queued when the shutdown begins stays tracked and gets no stop. -/
theorem shutdown_leaves_discovered :
    (Agent.shutdown waiting).2.meter.registry.isRegistered "web" = true ∧
      Report.stops "web" (Agent.shutdown waiting).2.meter.backend.handed = 0 := by
  have h := shutdown_leaves (a := waiting) ⟨Registry.keyed_of_empty rfl,
    Collector.sound_of_empty rfl rfl⟩
  obtain ⟨-,-,hleft,-⟩ := h
  exact ⟨(hleft "web").mpr (by decide),by decide⟩

end WatchedAgent

end HostMeter
