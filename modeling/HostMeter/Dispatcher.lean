import HostMeter.Metrics
import HostMeter.Pipeline
set_option autoImplicit false

/-! The dispatcher queues messages for the pipeline and works them off in order, the workers taking
turns. A worker that crashes is gone for good; with the last one the queue closes. -/

namespace HostMeter

structure DispatcherSettings where
  workers : Nat := 4
  places : Nat := 1024
  deriving DecidableEq, Repr

structure Dispatcher where
  total : Nat
  places : Nat
  /-- The workers alive, the one that takes the next message first. -/
  rota : List Nat
  queue : List Message := []
  processed : Nat := 0
  failed : Nat := 0
  deriving DecidableEq, Repr

namespace Dispatcher

variable {σ : Type} [Journal σ] [Metered σ]

/-- At least one worker and one place. -/
def ofSettings (s : DispatcherSettings) : Dispatcher :=
  { total := max s.workers 1, places := max s.places 1, rota := List.range (max s.workers 1) }

def start (s : DispatcherSettings) (st : σ) : Dispatcher × σ :=
  (ofSettings s,note (.dispatcherStarted (max s.workers 1) s.places) st)

def closedMessage : String := "dispatcher is shut down"

def isClosed (d : Dispatcher) : Bool := d.rota.isEmpty

def process (fs : List (Filter σ)) (m : Message) (d : Dispatcher) (s : σ) : Dispatcher × σ :=
  match Pipeline.run fs m (count (·.incMessages m.kind) s) with
  | (.failed e,s) =>
    ({ d with failed := d.failed+1, rota := d.rota.rotateLeft },
      note (.messageFailed m.kind e.filter e.message) (count (·.incFilterErrors e.filter) s))
  | (.crashed,s) => ({ d with rota := d.rota.tail },s)
  | (_,s) => ({ d with processed := d.processed+1, rota := d.rota.rotateLeft },s)

/-- Works messages off; what is left when the last worker goes is lost. -/
def workOff (fs : List (Filter σ)) : List Message → Dispatcher → σ → Dispatcher × σ
  | [],d,s => (d,s)
  | m :: ms,d,s =>
    if d.isClosed then (d,s)
    else
      let (d,s) := d.process fs m s
      workOff fs ms d s

def settle (fs : List (Filter σ)) (d : Dispatcher) (s : σ) : Dispatcher × σ :=
  workOff fs d.queue { d with queue := [] } s

/-- Queues a message. A producer that finds no place waits until the workers have caught up. -/
def dispatch (fs : List (Filter σ)) (m : Message) (d : Dispatcher) (s : σ) :
    Bool × Dispatcher × σ :=
  let (d,s) := if d.places ≤ d.queue.length then d.settle fs s else (d,s)
  if d.isClosed then (false,d,s) else (true,{ d with queue := d.queue++[m] },s)

/-- Asks after workers in the order of their numbers, up to the first that is still at work: those
that have left cleanly go unmentioned, any other has crashed. -/
def askAfter (working left : List Nat) : List Nat → List Notice × List Nat
  | [] => ([],[])
  | w :: ws =>
    if w ∈ working then ([],w :: ws)
    else
      let (ns,rest) := askAfter working left ws
      ((if w ∈ left then ns else .workerCrashed :: ns),rest)

/-- The workers leave in turn, each waking the next; whoever waits for one of them hears of its end
when the next has left. -/
def leave (waking : Bool) : List Nat → List Nat → List Nat → List Notice
  | [],left,asked => (askAfter [] left asked).1
  | w :: ws,left,asked =>
    let left := w :: left
    if waking then
      let (ns,rest) := askAfter ws left asked
      .queueClosed :: ns++leave false ws left rest
    else .queueClosed :: leave (asked.head? == some w) ws left asked

def closingNotices (d : Dispatcher) : List Notice :=
  let (ns,rest) := askAfter d.rota [] (List.range d.total)
  ns++leave false d.rota [] rest++[.dispatcherDrained d.processed d.failed]

/-- Closes the queue, works it off and lets the workers go. -/
def shutdown (fs : List (Filter σ)) (d : Dispatcher) (s : σ) : Dispatcher × σ :=
  let (d,s) := d.settle fs s
  (d,d.closingNotices.foldl (fun s n => note n s) s)

end Dispatcher

end HostMeter
