import HostMeter.Proofs.Agent.Queue
import HostMeter.Proofs.Workers.Flight
set_option autoImplicit false

/-! A dispatcher while producers, workers and its shutdown take turns, in any order. The workers share the
queue. Each draws a message, counts it, takes it through the pipeline filter by filter, and counts what
has become of it. The shutdown gives up the dispatcher's own end of the queue and waits for one worker
after the other. -/

namespace HostMeter

inductive Desk
  | free
  | drawn (m : Message)
  | busy (m : Message) (g : Flight)
  | failing (m : Message) (e : FilterError)
  | left
  | crashed
  deriving DecidableEq, Repr

/-- What producers, workers and the shutdown share. -/
structure Hall (σ : Type) where
  dispatcher : Dispatcher
  handles : Nat := 0
  /-- The worker that the shutdown waits for. -/
  closing : Option Nat := none
  /-- What the shutdown has returned: how many messages were processed, and how many failed. -/
  summary : Option (Nat × Nat) := none
  state : σ

inductive Entry
  | accepted (m : Message)
  | drawn (m : Message)
  | sent (m : Message)
  | landed (m : Message) (p : Passage)
  deriving DecidableEq, Repr

abbrev History := List Entry

namespace Hall

variable {σ : Type}

def isOpen (h : Hall σ) : Bool := h.handles ≠ 0 || h.closing.isNone

/-- A producer with a handle need not wait and is not turned away. -/
def accepts (h : Hall σ) : Bool :=
  h.handles ≠ 0 && h.dispatcher.queue.length < h.dispatcher.places && !h.dispatcher.isClosed

def withQueue (ms : List Message) (h : Hall σ) : Hall σ :=
  { h with dispatcher := { h.dispatcher with queue := ms } }

def leaving (d : Dispatcher) (s : σ) (h : Hall σ) : Hall σ := { h with dispatcher := d, state := s }

def dispatch (m : Message) (h : Hall σ) : Hall σ :=
  if h.accepts then h.withQueue (h.dispatcher.queue++[m]) else h

/-- Handles come from the dispatcher as long as it is not shut down, and from other handles. -/
def lend (h : Hall σ) : Hall σ := if h.isOpen then { h with handles := h.handles+1 } else h

def drop (h : Hall σ) : Hall σ := { h with handles := h.handles-1 }

def shutdown (h : Hall σ) : Hall σ := if h.closing.isNone then { h with closing := some 0 } else h

theorem lend_dispatcher (h : Hall σ) : h.lend.dispatcher = h.dispatcher := by
  unfold lend
  split <;> rfl

theorem lend_state (h : Hall σ) : h.lend.state = h.state := by
  unfold lend
  split <;> rfl

theorem shutdown_dispatcher (h : Hall σ) : h.shutdown.dispatcher = h.dispatcher := by
  unfold shutdown
  split <;> rfl

theorem shutdown_state (h : Hall σ) : h.shutdown.state = h.state := by
  unfold shutdown
  split <;> rfl

variable [Journal σ]

/-- The shutdown goes on to the next worker when the one it waits for is gone, and returns behind the
last. -/
def join (ds : List Desk) (h : Hall σ) : Hall σ :=
  match h.summary,h.closing with
  | none,some i =>
    match ds[i]? with
    | some .left => { h with closing := some (i+1) }
    | some .crashed => { h with closing := some (i+1), state := note .workerCrashed h.state }
    | some _ => h
    | none =>
      { h with
        summary := some (h.dispatcher.processed,h.dispatcher.failed)
        state := note (.dispatcherDrained h.dispatcher.processed h.dispatcher.failed) h.state }
  | _,_ => h

theorem join_dispatcher (ds : List Desk) (h : Hall σ) : (h.join ds).dispatcher = h.dispatcher := by
  unfold join
  split
  · split <;> rfl
  · rfl

/-- A producer that need not wait queues its message as the dispatcher does. -/
theorem dispatch_eq [Metered σ] (fs : List (Filter σ)) (m : Message) {h : Hall σ}
    (ha : h.accepts = true) :
    h.dispatcher.dispatch fs m h.state = (true,(h.dispatch m).dispatcher,(h.dispatch m).state) := by
  have hparts := ha
  simp only [accepts,Bool.and_eq_true,decide_eq_true_eq,Bool.not_eq_true'] at hparts
  obtain ⟨⟨-,hplace⟩,hclosed⟩ := hparts
  simp only [Dispatcher.dispatch,dispatch,ha,Nat.not_le.mpr hplace,hclosed,if_false,if_true,
    Bool.false_eq_true,withQueue]

end Hall

namespace Desk

variable {σ : Type} [Journal σ] [Metered σ]

def finish (m : Message) : Passage → Dispatcher → Desk × Dispatcher
  | .failed e,d => (.failing m e,{ d with failed := d.failed+1, rota := d.rota.rotateLeft })
  | .crashed,d => (.crashed,{ d with rota := d.rota.tail })
  | _,d => (.free,{ d with processed := d.processed+1, rota := d.rota.rotateLeft })

def step (fs : List (Filter σ)) : Desk → Hall σ → Desk × Hall σ
  | .free,h =>
    match h.dispatcher.queue with
    | m :: ms => (.drawn m,h.withQueue ms)
    | [] => if h.isOpen then (.free,h) else (.left,{ h with state := note .queueClosed h.state })
  | .drawn m,h => (.busy m { message := m },{ h with state := count (·.incMessages m.kind) h.state })
  | .busy m g,h =>
    match g.fate with
    | none => (.busy m (g.step fs h.state).1,{ h with state := (g.step fs h.state).2 })
    | some p => ((finish m p h.dispatcher).1,{ h with dispatcher := (finish m p h.dispatcher).2 })
  | .failing m e,h =>
    (.free,
      { h with
        state := note (.messageFailed m.kind e.filter e.message)
          (count (·.incFilterErrors e.filter) h.state) })
  | .left,h => (.left,h)
  | .crashed,h => (.crashed,h)

def mark? (h : Hall σ) : Desk → Option Entry
  | .free => h.dispatcher.queue.head?.map .drawn
  | .drawn m => some (.sent m)
  | .busy m g => g.fate.map (.landed m)
  | _ => none

inductive Goes (fs : List (Filter σ)) (h : Hall σ) : Desk → Desk → Hall σ → Option Entry → Prop
  | waits : h.dispatcher.queue = [] → h.isOpen = true → Goes fs h .free .free h none
  | leaves : h.dispatcher.queue = [] → h.isOpen = false →
      Goes fs h .free .left { h with state := note .queueClosed h.state } none
  | draws {m : Message} {ms : List Message} : h.dispatcher.queue = m :: ms →
      Goes fs h .free (.drawn m) (h.withQueue ms) (some (.drawn m))
  | sends (m : Message) :
      Goes fs h (.drawn m) (.busy m { message := m })
        { h with state := count (·.incMessages m.kind) h.state } (some (.sent m))
  | flies (m : Message) {g : Flight} : g.fate = none →
      Goes fs h (.busy m g) (.busy m (g.step fs h.state).1)
        { h with state := (g.step fs h.state).2 } none
  | lands (m : Message) {g : Flight} {p : Passage} : g.fate = some p →
      Goes fs h (.busy m g) (finish m p h.dispatcher).1
        { h with dispatcher := (finish m p h.dispatcher).2 } (some (.landed m p))
  | tells (m : Message) (e : FilterError) :
      Goes fs h (.failing m e) .free
        { h with
          state := note (.messageFailed m.kind e.filter e.message)
            (count (·.incFilterErrors e.filter) h.state) } none
  | left : Goes fs h .left .left h none
  | crashed : Goes fs h .crashed .crashed h none

variable (fs : List (Filter σ)) (d : Desk) (h : Hall σ)

theorem step_goes : Goes fs h d (d.step fs h).1 (d.step fs h).2 (d.mark? h) := by
  cases d with
  | free =>
    cases hq : h.dispatcher.queue with
    | nil =>
      cases ho : h.isOpen <;> simp only [step,mark?,hq,ho]
      · exact .leaves hq ho
      · exact .waits hq ho
    | cons m ms =>
      simp only [step,mark?,hq]
      exact .draws hq
  | drawn m => exact .sends m
  | busy m g =>
    cases hf : g.fate with
    | none =>
      simp only [step,mark?,hf]
      exact .flies m hf
    | some p =>
      simp only [step,mark?,hf]
      exact .lands m hf
  | failing m e => exact .tells m e
  | left => exact .left
  | crashed => exact .crashed

def isGone : Desk → Bool
  | .left | .crashed => true
  | _ => false

theorem exists_alone_busy (m : Message) (k : Nat) (g : Flight) (h : Hall σ) :
    ∃ j,Team.alone (step fs) j (.busy m g) h =
      (.busy m (Team.alone (Flight.step fs) k g h.state).1,
        { h with state := (Team.alone (Flight.step fs) k g h.state).2 }) := by
  induction k generalizing g h with
  | zero => exact ⟨0,rfl⟩
  | succ k ih =>
    by_cases hf : g.fate = none
    · obtain ⟨j,hj⟩ := ih (g.step fs h.state).1 { h with state := (g.step fs h.state).2 }
      have hs : step fs (.busy m g) h =
          (.busy m (g.step fs h.state).1,{ h with state := (g.step fs h.state).2 }) := by
        simp only [step,hf]
      exact ⟨j+1,(Team.alone_step hs j).trans hj⟩
    · rw [Team.alone_idle (Flight.step_landed hf)]
      exact ⟨0,rfl⟩

def told (m : Message) : Passage → σ → σ
  | .failed e,s =>
    note (.messageFailed m.kind e.filter e.message) (count (·.incFilterErrors e.filter) s)
  | _,s => s

theorem process_eq (m : Message) (d : Dispatcher) {p : Passage} {s t : σ}
    (h : Pipeline.run fs m (count (·.incMessages m.kind) s) = (p,t)) :
    d.process fs m s = ((finish m p d).2,told m p t) := by
  cases p <;> simp only [Dispatcher.process,h,finish,told]

theorem finish_withQueue (m : Message) (p : Passage) (ms : List Message) (d : Dispatcher) :
    (finish m p { d with queue := ms }).2 = { (finish m p d).2 with queue := ms } := by
  cases p <;> rfl

/-- A worker that is done has left its place in the rota, and its desk. -/
def Released (rota rota' : List Nat) (w : Desk) : Prop :=
  w = .free ∧ rota' = rota.rotateLeft ∨ w = .crashed ∧ rota' = rota.tail

theorem exists_alone_land (m : Message) {g : Flight} {p : Passage} (hf : g.fate = some p)
    (h : Hall σ) :
    ∃ k w,Team.alone (step fs) k (.busy m g) h =
        (w,h.leaving (finish m p h.dispatcher).2 (told m p h.state)) ∧
      Released h.dispatcher.rota (finish m p h.dispatcher).2.rota w := by
  have hs : step fs (.busy m g) h =
      ((finish m p h.dispatcher).1,{ h with dispatcher := (finish m p h.dispatcher).2 }) := by
    simp only [step,hf]
  cases p with
  | failed e => exact ⟨2,.free,Team.alone_step hs 1,.inl ⟨rfl,rfl⟩⟩
  | crashed => exact ⟨1,.crashed,Team.alone_step hs 0,.inr ⟨rfl,rfl⟩⟩
  | through m' => exact ⟨1,.free,Team.alone_step hs 0,.inl ⟨rfl,rfl⟩⟩
  | stopped => exact ⟨1,.free,Team.alone_step hs 0,.inl ⟨rfl,rfl⟩⟩

/-- What a worker left alone does with the next message is what the dispatcher does. -/
theorem exists_alone_process {m : Message} {ms : List Message} {d : Dispatcher} (h : Hall σ)
    (hd : h.dispatcher = { d with queue := m :: ms }) :
    ∃ k w,Team.alone (step fs) k .free h =
        (w,h.leaving { (d.process fs m h.state).1 with queue := ms } (d.process fs m h.state).2) ∧
      Released d.rota (d.process fs m h.state).1.rota w := by
  have hdraw : step fs .free h = (.drawn m,{ h with dispatcher := { d with queue := ms } }) := by
    simp only [step,hd,Hall.withQueue]
  let s := count (·.incMessages m.kind) h.state
  let g := (Team.alone (Flight.step fs) (fs.length+1) { message := m } s).1
  let h' : Hall σ := { h with dispatcher := { d with queue := ms } }
  have hsend : step fs (.drawn m) h' = (.busy m { message := m },{ h' with state := s }) := rfl
  obtain ⟨hfate,hstate⟩ : g.fate = some (Pipeline.run fs m s).1 ∧
      (Team.alone (Flight.step fs) (fs.length+1) { message := m } s).2 = (Pipeline.run fs m s).2 :=
    Flight.alone_runIn rfl rfl
  -- the flight ends somewhere among its first steps, and the desk must not go on behind that
  obtain ⟨j,hj⟩ : ∃ j,Team.alone (step fs) j (.busy m { message := m }) { h' with state := s } =
      (.busy m g,{ h' with state := (Pipeline.run fs m s).2 }) := by
    rw [← hstate]
    exact exists_alone_busy fs m (fs.length+1) { message := m } { h' with state := s }
  obtain ⟨k,w,hk,hw⟩ := exists_alone_land fs m hfate { h' with state := (Pipeline.run fs m s).2 }
  have hp : d.process fs m h.state =
      ((finish m (Pipeline.run fs m s).1 d).2,
        told m (Pipeline.run fs m s).1 (Pipeline.run fs m s).2) := process_eq fs m d rfl
  have hq := finish_withQueue m (Pipeline.run fs m s).1 ms d
  rw [hp]
  refine ⟨j+k+2,w,?_,?_⟩
  · rw [Team.alone_step hdraw,Team.alone_step hsend,Team.alone_add hj,← hq]
    exact hk
  · simpa only [h',hq] using hw

end Desk

abbrev Floor (σ : Type) := Team Desk (Hall σ)

namespace Floor

/-- A producer, a worker or the shutdown goes on, or something goes on around them. -/
inductive Move (σ : Type)
  | lend
  | dispatch (m : Message)
  | drop
  | work (i : Nat)
  | shutdown
  | join
  | around (f : σ → σ)

variable {σ : Type} [Journal σ] [Metered σ] {fs : List (Filter σ)}

namespace Move

def take (fs : List (Filter σ)) : Move σ → Floor σ → Floor σ
  | .lend,t => { t with state := t.state.lend }
  | .dispatch m,t => { t with state := t.state.dispatch m }
  | .drop,t => { t with state := t.state.drop }
  | .work i,t => t.step (Desk.step fs) i
  | .shutdown,t => { t with state := t.state.shutdown }
  | .join,t => { t with state := t.state.join t.members }
  | .around f,t => { t with state := { t.state with state := f t.state.state } }

def mark? (t : Floor σ) : Move σ → Option Entry
  | .dispatch m => if t.state.accepts then some (.accepted m) else none
  | .work i => t.members[i]?.bind (·.mark? t.state)
  | _ => none

theorem work_cases (fs : List (Filter σ)) (i : Nat) (t : Floor σ) :
    (t.members[i]? = none ∧ (work i).take fs t = t ∧ (work i).mark? t = none) ∨
      ∃ d d' h',t.members[i]? = some d ∧ Desk.Goes fs t.state d d' h' ((work i).mark? t) ∧
        (work i).take fs t = ⟨h',t.members.set i d'⟩ := by
  cases hi : t.members[i]? with
  | none => exact .inl ⟨rfl,Team.step_none hi,by simp only [mark?,hi,Option.bind_none]⟩
  | some d =>
    refine .inr ⟨d,_,_,rfl,?_,Team.step_some hi⟩
    simp only [mark?,hi,Option.bind_some]
    exact Desk.step_goes fs d t.state

end Move

def ofSettings (s : DispatcherSettings) (st : σ) : Floor σ :=
  ⟨{ dispatcher := (Dispatcher.start s st).1, state := (Dispatcher.start s st).2 },
    List.replicate (max s.workers 1) .free⟩

def run (fs : List (Filter σ)) (xs : List (Move σ)) (t : Floor σ) : Floor σ :=
  xs.foldl (fun t x => x.take fs t) t

def history (fs : List (Filter σ)) : List (Move σ) → Floor σ → History
  | [],_ => []
  | x :: xs,t => (x.mark? t).toList++history fs xs (x.take fs t)

theorem run_cons (x : Move σ) (xs : List (Move σ)) (t : Floor σ) :
    run fs (x :: xs) t = run fs xs (x.take fs t) := rfl

theorem run_append (xs ys : List (Move σ)) (t : Floor σ) :
    run fs (xs++ys) t = run fs ys (run fs xs t) := List.foldl_append

theorem length_take (x : Move σ) (t : Floor σ) :
    (x.take fs t).members.length = t.members.length := by
  cases x with
  | work i => exact Team.length_step _ i t
  | _ => rfl

theorem length_run (xs : List (Move σ)) (t : Floor σ) :
    (run fs xs t).members.length = t.members.length := by
  induction xs generalizing t with
  | nil => rfl
  | cons x xs ih => exact (ih (x.take fs t)).trans (length_take x t)

theorem run_alone (fs : List (Filter σ)) {d : Desk} {i : Nat} {t : Floor σ}
    (hi : t.members[i]? = some d) (k : Nat) :
    run fs (.replicate k (.work i)) t =
      ⟨(Team.alone (Desk.step fs) k d t.state).2,
        t.members.set i (Team.alone (Desk.step fs) k d t.state).1⟩ :=
  Team.foldl_replicate (fun _ => rfl) hi k

theorem exists_run_workOff (ms : List Message) {d : Dispatcher} {t : Floor σ}
    (hd : t.state.dispatcher = { d with queue := ms })
    (hf : t.members.countP (· = .free) = d.rota.length) :
    ∃ xs left,(run fs xs t).state =
      t.state.leaving { (d.workOff fs ms t.state.state).1 with queue := left }
        (d.workOff fs ms t.state.state).2 := by
  induction ms generalizing d t with
  | nil => exact ⟨[],[],congrArg (t.state.leaving · t.state.state) hd⟩
  | cons m ms ih =>
    cases hc : d.isClosed with
    | true =>
      rw [Dispatcher.workOff_closed _ _ hc]
      exact ⟨[],m :: ms,congrArg (t.state.leaving · t.state.state) hd⟩
    | false =>
      have hpos : 0 < t.members.countP (· = .free) := by
        rw [hf,Nat.pos_iff_ne_zero]
        intro h0
        rw [Dispatcher.isClosed_iff.mpr h0] at hc
        cases hc
      -- any free worker does; it is free again afterwards, or there is one less of them in the rota too
      obtain ⟨x,hx,hfree⟩ := List.countP_pos_iff.mp hpos
      obtain rfl : x = .free := of_decide_eq_true hfree
      obtain ⟨i,hi⟩ := List.mem_iff_getElem?.mp hx
      obtain ⟨k,w,hk,hw⟩ := Desk.exists_alone_process fs t.state hd
      have hrun := run_alone fs hi k
      rw [hk] at hrun
      have hcount : (t.members.set i w).countP (· = .free) =
          (d.process fs m t.state.state).1.rota.length := by
        have hset := Team.countP_set_add (· = Desk.free) hi w
        rcases hw with ⟨rfl,hr⟩ | ⟨rfl,hr⟩
        · rw [hr,Dispatcher.length_rotateLeft]
          exact (Nat.add_right_cancel hset).trans hf
        · rw [hr,List.length_tail]
          simp only [decide_true,Bool.toNat_true,reduceCtorEq,decide_false,Bool.toNat_false] at hset
          omega
      obtain ⟨xs,left,hxs⟩ := ih (t := run fs (.replicate k (.work i)) t)
        (d := (d.process fs m t.state.state).1) (by rw [hrun]; rfl) (by rw [hrun]; exact hcount)
      refine ⟨.replicate k (.work i)++xs,left,?_⟩
      rw [run_append,hxs,hrun,Dispatcher.workOff_cons m ms _ hc]
      rfl

/-- There is a course of the workers in which the queue is worked off as the dispatcher does it. -/
theorem exists_run_settle {t : Floor σ}
    (hf : t.members.countP (· = .free) = t.state.dispatcher.rota.length) :
    ∃ xs left,(run fs xs t).state =
      t.state.leaving { (t.state.dispatcher.settle fs t.state.state).1 with queue := left }
        (t.state.dispatcher.settle fs t.state.state).2 :=
  exists_run_workOff t.state.dispatcher.queue (d := { t.state.dispatcher with queue := [] }) rfl hf

omit [Metered σ] in
theorem countP_ofSettings (s : DispatcherSettings) (st : σ) {q : Desk → Bool} (hq : q .free = false) :
    (ofSettings s st).members.countP q = 0 := by
  simp [ofSettings,List.countP_replicate,hq]

end Floor

end HostMeter
