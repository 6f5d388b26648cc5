import HostMeter.Agent
import HostMeter.Proofs.Chain.Send
set_option autoImplicit false

/-! The queue of an agent is first in, first out. Queueing a message and working the queue off come to
the same as having the workers send the messages in the order in which they came, until the last of
them has crashed; when the queue is worked off, and how often, makes no difference. -/

namespace HostMeter

/-- A core, and how many workers there are to send messages through it. -/
structure Crew (δ ρ : Type) where
  core : Core δ ρ
  workers : Nat

variable {δ ρ : Type} [ContainerRuntime δ] [Backend ρ]

namespace Core

def sendAll (meterId : String) (ms : List Message) (k : Core δ ρ) : Core δ ρ :=
  ms.foldl (fun k msg => (k.send meterId msg).2) k

theorem sendAll_append (meterId : String) (ms ns : List Message) (k : Core δ ρ) :
    k.sendAll meterId (ms++ns) = (k.sendAll meterId ms).sendAll meterId ns := List.foldl_append

theorem sendAll_cons (meterId : String) (msg : Message) (ms : List Message) (k : Core δ ρ) :
    k.sendAll meterId (msg :: ms) = (k.send meterId msg).2.sendAll meterId ms := rfl

theorem sendAll_keeps {P : Core δ ρ → Prop} (meterId : String)
    (step : ∀ msg k,P k → P (k.send meterId msg).2) (ms : List Message) {k : Core δ ρ} (h : P k) :
    P (k.sendAll meterId ms) := by
  induction ms generalizing k with
  | nil => exact h
  | cons msg ms ih => exact ih (step msg k h)

end Core

namespace Crew

variable {meterId : String} {c : Crew δ ρ} {msg : Message} {ms : List Message}

/-- A worker sends a message, and is gone when it has crashed over it. -/
def send (meterId : String) (msg : Message) (c : Crew δ ρ) : Crew δ ρ :=
  if c.workers = 0 then c
  else
    { core := (c.core.send meterId msg).2
      workers := if (c.core.send meterId msg).1 = .crashed then c.workers-1 else c.workers }

def sendAll (meterId : String) (ms : List Message) (c : Crew δ ρ) : Crew δ ρ :=
  ms.foldl (fun c msg => c.send meterId msg) c

def sent (meterId : String) : List Message → Crew δ ρ → List Message
  | [],_ => []
  | msg :: ms,c => if c.workers = 0 then [] else msg :: sent meterId ms (c.send meterId msg)

theorem send_idle (h : c.workers = 0) : c.send meterId msg = c := if_pos h

theorem core_send (h : c.workers ≠ 0) :
    (c.send meterId msg).core = (c.core.send meterId msg).2 := by
  rw [send,if_neg h]

theorem sendAll_cons (meterId : String) (msg : Message) (ms : List Message) (c : Crew δ ρ) :
    c.sendAll meterId (msg :: ms) = (c.send meterId msg).sendAll meterId ms := rfl

theorem sendAll_append (meterId : String) (ms ns : List Message) (c : Crew δ ρ) :
    c.sendAll meterId (ms++ns) = (c.sendAll meterId ms).sendAll meterId ns := List.foldl_append

theorem sendAll_idle (h : c.workers = 0) : c.sendAll meterId ms = c := by
  induction ms with
  | nil => rfl
  | cons msg ms ih => rw [sendAll_cons,send_idle h,ih]

theorem sent_cons (h : c.workers ≠ 0) :
    c.sent meterId (msg :: ms) = msg :: (c.send meterId msg).sent meterId ms := if_neg h

theorem sent_idle (h : c.workers = 0) : c.sent meterId ms = [] := by
  cases ms with
  | nil => rfl
  | cons msg ms => exact if_pos h

theorem sent_append (meterId : String) (ms ns : List Message) (c : Crew δ ρ) :
    c.sent meterId (ms++ns) = c.sent meterId ms++(c.sendAll meterId ms).sent meterId ns := by
  induction ms generalizing c with
  | nil => rfl
  | cons msg ms ih =>
    by_cases h : c.workers = 0
    · rw [sent_idle h,sent_idle h,sendAll_idle h,sent_idle h,List.append_nil]
    · rw [List.cons_append,sent_cons h,sent_cons h,ih,sendAll_cons,List.cons_append]

theorem sent_prefix (meterId : String) (ms : List Message) (c : Crew δ ρ) :
    c.sent meterId ms <+: ms := by
  induction ms generalizing c with
  | nil => exact List.prefix_rfl
  | cons msg ms ih =>
    by_cases h : c.workers = 0
    · rw [sent_idle h]
      exact List.nil_prefix
    · rw [sent_cons h]
      exact (List.prefix_cons_inj msg).mpr (ih _)

theorem sent_all (h : (c.sendAll meterId ms).workers ≠ 0) : c.sent meterId ms = ms := by
  induction ms generalizing c with
  | nil => rfl
  | cons msg ms ih =>
    have hc : c.workers ≠ 0 := by
      intro hc
      rw [sendAll_idle hc] at h
      exact h hc
    rw [sent_cons hc,ih h]

theorem core_sendAll (meterId : String) (ms : List Message) (c : Crew δ ρ) :
    (c.sendAll meterId ms).core = c.core.sendAll meterId (c.sent meterId ms) := by
  induction ms generalizing c with
  | nil => rfl
  | cons msg ms ih =>
    by_cases h : c.workers = 0
    · rw [sendAll_idle h,sent_idle h]
      rfl
    · rw [sendAll_cons,ih,sent_cons h,Core.sendAll_cons,core_send h]

theorem send_keeps {P : Core δ ρ → Prop} (step : ∀ msg k,P k → P (k.send meterId msg).2)
    (msg : Message) (h : P c.core) : P (c.send meterId msg).core := by
  by_cases hc : c.workers = 0
  · rw [send_idle hc]
    exact h
  · rw [core_send hc]
    exact step msg c.core h

end Crew

namespace Dispatcher

theorem isClosed_iff {d : Dispatcher} : d.isClosed = true ↔ d.rota.length = 0 := by
  rw [isClosed,List.isEmpty_iff_length_eq_zero]

theorem length_rotateLeft (ws : List Nat) : ws.rotateLeft.length = ws.length := by
  by_cases h : ws.length ≤ 1
  · simp only [List.rotateLeft,h,if_true]
  · simp only [List.rotateLeft,h,if_false,List.length_append,List.length_drop,List.length_take]
    omega

section

variable {σ : Type} [Journal σ] [Metered σ] {fs : List (Filter σ)} {d : Dispatcher} {s : σ}

theorem process_queue (fs : List (Filter σ)) (msg : Message) (d : Dispatcher) (s : σ) :
    (d.process fs msg s).1.queue = d.queue := by
  unfold process
  split <;> rfl

theorem workOff_cons (msg : Message) (ms : List Message) (s : σ) (h : d.isClosed = false) :
    workOff fs (msg :: ms) d s =
      workOff fs ms (d.process fs msg s).1 (d.process fs msg s).2 := by
  simp [workOff,h]

theorem workOff_closed (ms : List Message) (s : σ) (h : d.isClosed = true) :
    workOff fs ms d s = (d,s) := by
  cases ms with
  | nil => rfl
  | cons msg ms => simp [workOff,h]

theorem workOff_queue (ms : List Message) (d : Dispatcher) (s : σ) :
    (workOff fs ms d s).1.queue = d.queue := by
  induction ms generalizing d s with
  | nil => rfl
  | cons msg ms ih =>
    cases hd : d.isClosed with
    | true => rw [workOff_closed (msg :: ms) s hd]
    | false => rw [workOff_cons msg ms s hd,ih,process_queue]

end

variable {s : ChainSettings} {d : Dispatcher}

def crew (p : Dispatcher × Meter δ ρ) : Crew δ ρ := ⟨p.2.core,p.1.rota.length⟩

theorem crew_process (s : ChainSettings) (msg : Message) (m : Meter δ ρ) (h : d.isClosed = false) :
    crew (d.process (Chain.standard s) msg m) = (crew (d,m)).send s.meterId msg := by
  have hw : (crew (d,m)).workers ≠ 0 := by
    intro hw
    rw [isClosed_iff.mpr hw] at h
    cases h
  have ho := Meter.outcome_send s msg (count (·.incMessages msg.kind) m)
  rw [Meter.core_count] at ho
  have hc : (crew (d,m)).core = m.core := rfl
  rcases hp : Pipeline.run (Chain.standard s) msg (count (·.incMessages msg.kind) m) with ⟨p,m'⟩
  have hs : m.core.send s.meterId msg = (p,m'.core) := by
    rw [← ho,Meter.outcome,Meter.send,hp]
  rw [Crew.send,if_neg hw,hc,hs]
  cases p with
  | crashed => simp only [process,hp,crew,List.length_tail,if_true]
  | failed e =>
    simp only [process,hp,crew,length_rotateLeft,Meter.core_note,Meter.core_count]
    rfl
  | stopped =>
    simp only [process,hp,crew,length_rotateLeft]
    rfl
  | through msg' =>
    simp only [process,hp,crew,length_rotateLeft]
    rfl

theorem crew_workOff (s : ChainSettings) (ms : List Message) (d : Dispatcher) (m : Meter δ ρ) :
    crew (workOff (Chain.standard s) ms d m) = (crew (d,m)).sendAll s.meterId ms := by
  induction ms generalizing d m with
  | nil => rfl
  | cons msg ms ih =>
    cases hd : d.isClosed with
    | true =>
      rw [workOff_closed (msg :: ms) m hd,Crew.sendAll_idle (isClosed_iff.mp hd)]
    | false =>
      rw [workOff_cons msg ms m hd,ih,Crew.sendAll_cons,← crew_process s msg m hd]

end Dispatcher

namespace Agent

variable {a : Agent δ ρ}

def crew (a : Agent δ ρ) : Crew δ ρ := Dispatcher.crew (a.dispatcher,a.meter)

/-- The crew as it will be when all that is queued has been worked off. -/
def outlook (a : Agent δ ρ) : Crew δ ρ := a.crew.sendAll a.chain.meterId a.dispatcher.queue

omit [ContainerRuntime δ] [Backend ρ] in
theorem crew_idle (h : a.dispatcher.isClosed = true) : a.crew.workers = 0 :=
  Dispatcher.isClosed_iff.mp h

omit [ContainerRuntime δ] [Backend ρ] in
theorem crew_busy (h : a.dispatcher.isClosed = false) : a.crew.workers ≠ 0 := by
  intro hw
  rw [Dispatcher.isClosed_iff.mpr hw] at h
  cases h

theorem settle_queue (a : Agent δ ρ) : a.settle.dispatcher.queue = [] :=
  Dispatcher.workOff_queue a.dispatcher.queue { a.dispatcher with queue := [] } a.meter

theorem crew_settle (a : Agent δ ρ) : a.settle.crew = a.outlook :=
  Dispatcher.crew_workOff a.chain a.dispatcher.queue { a.dispatcher with queue := [] } a.meter

theorem outlook_settle (a : Agent δ ρ) : a.settle.outlook = a.outlook := by
  rw [outlook,settle_queue]
  exact crew_settle a

def ready (a : Agent δ ρ) : Agent δ ρ :=
  if a.dispatcher.places ≤ a.dispatcher.queue.length then a.settle else a

theorem ready_chain (a : Agent δ ρ) : a.ready.chain = a.chain := by
  unfold ready
  split <;> rfl

theorem outlook_ready (a : Agent δ ρ) : a.ready.outlook = a.outlook := by
  unfold ready
  split
  · exact outlook_settle a
  · rfl

theorem dispatch_accepted (msg : Message) (h : a.ready.dispatcher.isClosed = false) :
    a.dispatch msg = { a.ready with
      dispatcher := { a.ready.dispatcher with queue := a.ready.dispatcher.queue++[msg] } } := by
  unfold ready at h ⊢
  unfold dispatch Dispatcher.dispatch
  split at h
  · rename_i hp
    have hs : (a.dispatcher.settle a.filters a.meter).1.isClosed = false := h
    simp only [hp,if_true,hs,Bool.false_eq_true,if_false]
    rfl
  · rename_i hp
    simp only [hp,if_false,h,Bool.false_eq_true]

theorem dispatch_refused (msg : Message) (h : a.ready.dispatcher.isClosed = true) :
    a.dispatch msg = a.ready.onMeter fun m =>
      unhealthy Health.dispatcher Dispatcher.closedMessage
        (note (.dispatchFailed Dispatcher.closedMessage) m) := by
  unfold ready at h ⊢
  unfold dispatch Dispatcher.dispatch
  split at h
  · rename_i hp
    have hs : (a.dispatcher.settle a.filters a.meter).1.isClosed = true := h
    simp only [hp,if_true,hs]
    rfl
  · rename_i hp
    simp only [hp,if_false,h,if_true]
    rfl

theorem dispatch_chain (msg : Message) (a : Agent δ ρ) : (a.dispatch msg).chain = a.chain := by
  cases h : a.ready.dispatcher.isClosed with
  | false =>
    rw [dispatch_accepted msg h]
    exact a.ready_chain
  | true =>
    rw [dispatch_refused msg h]
    exact a.ready_chain

theorem outlook_dispatch (msg : Message) (a : Agent δ ρ) :
    (a.dispatch msg).outlook = a.outlook.send a.chain.meterId msg := by
  have hl := outlook_ready a
  rw [← hl,← ready_chain]
  cases h : a.ready.dispatcher.isClosed with
  | true =>
    -- Nobody is there, so that neither this message nor those queued before it are sent.
    have hi : a.ready.outlook.workers = 0 := by
      rw [outlook,Crew.sendAll_idle (crew_idle h)]
      exact crew_idle h
    rw [Crew.send_idle hi,dispatch_refused msg h]
    rfl
  | false =>
    rw [dispatch_accepted msg h]
    exact Crew.sendAll_append a.ready.chain.meterId a.ready.dispatcher.queue [msg] a.ready.crew

theorem outlook_dispatchAll (ms : List Message) (a : Agent δ ρ) :
    (a.dispatchAll ms).outlook = a.outlook.sendAll a.chain.meterId ms := by
  induction ms generalizing a with
  | nil => rfl
  | cons msg ms ih =>
    have h := ih (a.dispatch msg)
    rw [dispatch_chain,outlook_dispatch] at h
    exact h

end Agent

end HostMeter
