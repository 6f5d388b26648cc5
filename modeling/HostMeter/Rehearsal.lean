import HostMeter.Agent
import HostMeter.Failing
import HostMeter.Fleet
import HostMeter.Inbox
import HostMeter.Probe
set_option autoImplicit false

/-! A meter rehearsed by hand: it runs over a runtime and a receiver in memory, both of which can be
made to fail, and what each step of a rehearsal has brought can be read off. -/

namespace HostMeter

abbrev Rehearsal := Meter (FailingRuntime Fleet) (FailingBackend Inbox)

namespace Rehearsal

def ofParts (p : Policy) (containers : List Container) (rateMs places : Nat) (clock : Timestamp) :
    Rehearsal where
  registry := ⟨p,.empty⟩
  collector := .ofSettings rateMs places
  runtime := { inner := .ofContainers containers }
  backend := { inner := {} }
  clock

def fleet (m : Rehearsal) : Fleet := m.runtime.inner

def onFleet {α : Type} (f : Fleet → α × Fleet) (m : Rehearsal) : α × Rehearsal :=
  let (a,inner) := f m.runtime.inner
  (a,{ m with runtime := { m.runtime with inner } })

def add (c : Container) (m : Rehearsal) : Rehearsal := (onFleet (fun f => ((),f.add c)) m).2

def remove (name : String) (m : Rehearsal) : Rehearsal :=
  let (i,m) := onFleet (Fleet.remove name) m
  m.cutChannel i

def closeUsage (name : String) (m : Rehearsal) : Rehearsal :=
  let (i,m) := onFleet (Fleet.closeUsage name) m
  m.cutChannel i

def push (name : String) (u : Usage) (m : Rehearsal) : Bool × Rehearsal :=
  let (b,cs) := m.fleet.push name u m.channels
  (b,m.setChannels cs)

def usageOpen (m : Rehearsal) (name : String) : Bool := m.fleet.usageOpen name m.channels

def openNames (m : Rehearsal) : List String := m.fleet.feeds.keys.filter m.usageOpen

def setFault (call : String) (f : Option CallFault) (m : Rehearsal) : Rehearsal :=
  { m with runtime := { m.runtime with faults := m.runtime.faults.set call f } }

def setDeliveryFault (fault : Option DeliveryError) (m : Rehearsal) : Rehearsal :=
  { m with backend := { m.backend with fault } }

def setFailing (failing : Bool) (m : Rehearsal) : Rehearsal :=
  { m with backend := { m.backend with inner := { m.backend.inner with failing } } }

def reports (m : Rehearsal) : List Report := m.backend.inner.reports

def setStream (stream : Channel Sample) (m : Rehearsal) : Rehearsal :=
  { m with collector := { m.collector with stream } }

def byName {α : Type} (name : α → String) (xs : List α) : List α :=
  xs.mergeSort (fun a b => decide (name a ≤ name b))

def drain (m : Rehearsal) : List Sample × Rehearsal :=
  let (ss,m) := m.drainStream
  (byName (·.container.name) ss,m)

def reportsSince (a b : Rehearsal) : List Report := b.reports.drop a.reports.length

def noticesSince (a b : Rehearsal) : List Notice := (b.log.take (b.log.length-a.log.length)).reverse

def seenSince (a b : Observed Rehearsal) : List Sighting :=
  (b.seen.take (b.seen.length-a.seen.length)).reverse

end Rehearsal

structure Names where
  ids : List (String × Nat) := []

namespace Names

def get? (ns : Names) (k : String) : Option Nat := (ns.ids.find? (·.1 == k)).map (·.2)
def erase (ns : Names) (k : String) : Names := ⟨ns.ids.filter (·.1 ≠ k)⟩
def set (ns : Names) (k : String) (i : Nat) : Names := ⟨(k,i) :: (ns.erase k).ids⟩

end Names

/-- A rehearsal whose channels and watches are handled one by one. -/
structure Bench where
  meter : Rehearsal
  senders : Names := {}
  readers : Names := {}
  watches : Names := {}

namespace Bench

/-- Takes a reading end under a name; one of that name before is let go. -/
def holdReader (k : String) (i : ChannelId) (b : Bench) : Bench :=
  let meter := match b.readers.get? k with
    | some old => b.meter.closeChannel old
    | none => b.meter
  { b with meter, readers := b.readers.set k i }

def openChannel (k : String) (c : Container) (places : Nat) (b : Bench) : Channel Usage × Bench :=
  let feed : Channel Usage := .ofPlaces places
  let i := b.meter.channels.next
  let meter := b.meter.setChannels (b.meter.channels.add ⟨c,feed⟩)
  (feed,holdReader k i { b with meter, senders := b.senders.set k i })

def dropSender (k : String) (b : Bench) : Bool × Bench :=
  ((b.senders.get? k).isSome,
    { b with meter := b.meter.cutChannel (b.senders.get? k), senders := b.senders.erase k })

def tryRecv (k : String) (b : Bench) : Taken Usage × Bench :=
  match b.readers.get? k with
  | some i =>
    let (t,cs) := b.meter.channels.take i
    (t,{ b with meter := b.meter.setChannels cs })
  | none => (.disconnected,b)

def closeReader (k : String) (b : Bench) : Bench :=
  match b.readers.get? k with
  | some i => { b with meter := b.meter.closeChannel i, readers := b.readers.erase k }
  | none => b

def send (k : String) (u : Usage) (b : Bench) : Offer × Bench :=
  match b.senders.get? k with
  | some i =>
    let (o,cs) := b.meter.channels.offer i u
    (o,{ b with meter := b.meter.setChannels cs })
  | none => (.closed,b)

def collect (k : String) (b : Bench) : Option (String × Bool) × Bench :=
  match b.readers.get? k with
  | some i =>
    let (ok,meter) := b.meter.collect i
    (some (meter.channels.name i,ok),{ b with meter, readers := b.readers.erase k })
  | none => (none,b)

def stop (name k : String) (b : Bench) : Collector.Stop × Bench :=
  match b.meter.stopCollecting name with
  | (.channel i,meter) => (.channel i,holdReader k i { b with meter })
  | (s,meter) => (s,{ b with meter })

def stopAll (b : Bench) : List String × Bench :=
  let (is,meter) := b.meter.stopAll
  let names := is.map meter.channels.name
  (Rehearsal.byName id names,
    (is.zip names).foldl (fun b (i,n) => holdReader ("stopped:"++n) i b) { b with meter })

/-- The next sample, or nothing when the reading end of the stream is gone. -/
def takeSample (b : Bench) : Option (Taken Sample) × Bench :=
  if b.meter.collector.stream.read then
    let (t,stream) := b.meter.collector.stream.take
    (some t,{ b with meter := b.meter.setStream stream })
  else (none,b)

def drain (b : Bench) : Option (List Sample) × Bench :=
  if b.meter.collector.stream.read then
    let (ss,meter) := b.meter.drain
    (some ss,{ b with meter })
  else (none,b)

def dropStream (b : Bench) : Bool × Bench :=
  (b.meter.collector.stream.read,
    { b with meter := b.meter.setStream b.meter.collector.stream.close })

end Bench

end HostMeter
