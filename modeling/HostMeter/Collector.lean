import HostMeter.Clock
import HostMeter.Metrics
import HostMeter.Notice
import HostMeter.Number.Limits
import HostMeter.Report
import HostMeter.UsageChannel
set_option autoImplicit false

/-! The collector turns usage channels into one stream of samples. Each collected container has an
entry and a poll loop, tied to each other by a generation number; the loop looks into its channel
once per interval and never waits for it. Stopping takes the entry away, cancels the loop and waits
for it to hand its channel back. -/

namespace HostMeter

inductive Phase
  | polling
  /-- Told to stop, and not yet aware of it. -/
  | cancelled
  /-- Has seen its channel disconnected and still has to give up its entry. -/
  | leaving
  | ended
  /-- Ended without a channel. -/
  | crashed
  deriving DecidableEq, Repr

structure PollLoop where
  name : String
  generation : Nat
  channel : ChannelId
  due : Nat
  phase : Phase
  deriving DecidableEq, Repr

structure Collector where
  rateMs : Nat
  stream : Channel Sample
  channels : UsageChannels := {}
  /-- The generation of the loop that samples each collected container. -/
  entries : Table Nat := .empty
  loops : List PollLoop := []
  nextGeneration : Nat := 0
  now : Nat := 0
  deriving DecidableEq, Repr

namespace Collector

inductive Effect
  | started (name : String) (rateMs active : Nat)
  | refused (name : String)
  | removed (active : Nat)
  | stopped (name : String)
  | lost (name : String)
  | allStopped (count : Nat)
  | emitted
  | overflowed (name : String)
  | unheard (name : String)
  | ended (name : String)
  deriving DecidableEq, Repr

def Effect.notice? : Effect → Option Notice
  | .started n r _ => some (.collectionStarted n r)
  | .refused n => some (.alreadyCollected n)
  | .removed _ => none
  | .stopped n => some (.collectionStopped n)
  | .lost n => some (.pollLost n)
  | .allStopped c => some (.allCollectionsStopped c)
  | .emitted => none
  | .overflowed n => some (.streamFull n)
  | .unheard n => some (.streamClosed n)
  | .ended n => some (.usageEnded n)

def Effect.count : Effect → Metrics → Metrics
  | .started _ _ a, m => m.setCollectionsActive a
  | .removed a, m => m.setCollectionsActive a
  | .emitted, m => m.incSamplesEmitted
  | .overflowed _, m => m.incSamplesDropped
  | _, m => m

abbrev Effects := List Effect

/-- The shortest interval is a millisecond. -/
def ofSettings (rateMs places : Nat) : Collector :=
  { rateMs := max rateMs 1, stream := .ofPlaces places }

def isCollecting (c : Collector) (name : String) : Bool := c.entries.contains name
def active (c : Collector) : Nat := c.entries.size

/-- The interval in effect as a word; longer ones wrap. -/
def rateWord (c : Collector) : UInt64 := UInt64.ofNat c.rateMs

/-- Instants are counted in seconds by a signed word, and no loop can wait past the last. -/
def lastInstant : Nat := limit63*1000

def setPhase (generation : Nat) (old new : Phase) (l : PollLoop) : PollLoop :=
  if l.generation = generation ∧ l.phase = old then { l with phase := new } else l

def loop? (c : Collector) (generation : Nat) : Option PollLoop :=
  c.loops.find? (·.generation = generation)

def forget (c : Collector) (generation : Nat) : Collector :=
  { c with loops := c.loops.filter (·.generation ≠ generation) }

def freshLoop (c : Collector) (name : String) (i : ChannelId) : PollLoop :=
  { name, generation := c.nextGeneration, channel := i, due := c.now+c.rateMs,
    phase := if c.now+c.rateMs < lastInstant then .polling else .crashed }

/-- Starts to sample the container behind a channel. One that is sampled already keeps its loop,
and the new channel is closed; a loop that cannot wait for its first look takes its channel with it. -/
def collect (i : ChannelId) (c : Collector) : Bool × Collector × Effects :=
  let name := c.channels.name i
  if c.isCollecting name then
    (false,{ c with channels := c.channels.close i },[.refused name])
  else
    let l := c.freshLoop name i
    let entries := c.entries.insert name c.nextGeneration
    (true,
      { c with
        entries
        loops := c.loops++[l]
        nextGeneration := c.nextGeneration+1
        channels := if l.phase = .crashed then c.channels.close i else c.channels },
      [.started name c.rateWord.toNat entries.size])

inductive Finish
  | waiting
  | lost
  | channel (i : ChannelId)
  deriving DecidableEq, Repr

def cancel (name : String) (c : Collector) : Option Nat × Collector × Effects :=
  match c.entries.get? name with
  | none => (none,c,[])
  | some g =>
    let entries := c.entries.erase name
    (some g,{ c with entries, loops := c.loops.map (setPhase g .polling .cancelled) },
      [.removed entries.size])

/-- A cancelled loop sees that before anything else. -/
def observe (generation : Nat) (c : Collector) : Collector :=
  { c with loops := c.loops.map (setPhase generation .cancelled .ended) }

/-- Whoever waits for a loop gets its channel once it is over. -/
def finish (generation : Nat) (c : Collector) : Finish × Collector :=
  match c.loop? generation with
  | none => (.lost,c)
  | some l => match l.phase with
    | .ended => (.channel l.channel,c.forget generation)
    | .crashed => (.lost,c.forget generation)
    | _ => (.waiting,c)

inductive Stop
  | notFound
  | lost
  | channel (i : ChannelId)
  deriving DecidableEq, Repr

def stop (name : String) (c : Collector) : Stop × Collector × Effects :=
  match c.cancel name with
  | (none,c,_) => (.notFound,c,[])
  | (some g,c,es) => match (c.observe g).finish g with
    | (.channel i,c) => (.channel i,c,es++[.stopped name])
    | (_,c) => (.lost,c,es)

def finishAll : List (String × Nat) → Collector → List ChannelId × Collector × Effects
  | [],c => ([],c,[])
  | (name,g) :: rest,c =>
    match (c.observe g).finish g with
    | (.channel i,c) =>
      let (is,c,es) := finishAll rest c
      (i :: is,c,es)
    | (_,c) =>
      let (is,c,es) := finishAll rest c
      (is,c,.lost name :: es)

def cancelAll (c : Collector) : Collector :=
  { c with
    entries := .empty
    loops := c.loops.map fun l =>
      if c.entries.get? l.name = some l.generation ∧ l.phase = .polling
      then { l with phase := .cancelled } else l }

def stopAll (c : Collector) : List ChannelId × Collector × Effects :=
  let (is,c',es) := finishAll c.entries.entries c.cancelAll
  (is,c',.removed 0 :: es++[.allStopped is.length])

def sample (c : Collector) (clock : Timestamp) (container : Container) (u : Usage) : Sample :=
  ⟨container,u,clock,c.rateWord⟩

/-- Puts one reading on the stream, or drops it when there is no place or nobody to read it. -/
def emit (clock : Timestamp) (container : Container) (u : Usage) (c : Collector) :
    Collector × Effects :=
  match c.stream.offer (c.sample clock container u) with
  | (.accepted,s) => ({ c with stream := s },[.emitted])
  | (.full,_) => (c,[.overflowed container.name])
  | (.closed,_) => (c,[.unheard container.name])

def reschedule (generation rateMs : Nat) (l : PollLoop) : PollLoop :=
  if l.generation = generation then { l with due := l.due+rateMs } else l

def tick (clock : Timestamp) (generation : Nat) (c : Collector) : Collector × Effects :=
  match c.loop? generation with
  | some l =>
    if l.phase = .polling then
      let c := { c with loops := c.loops.map (reschedule generation c.rateMs) }
      match c.channels.get? l.channel,c.channels.take l.channel with
      | some ch,(.item u,channels) => ({ c with channels }).emit clock ch.container u
      | _,(.disconnected,_) =>
        ({ c with loops := c.loops.map (setPhase generation .polling .leaving) },[.ended l.name])
      | _,_ => (c,[])
    else (c,[])
  | none => (c,[])

/-- A leaving loop gives up its entry, unless the entry is gone or another loop's by now. -/
def release (generation : Nat) (c : Collector) : Collector × Effects :=
  match c.loop? generation with
  | some l =>
    if l.phase = .leaving then
      if c.entries.get? l.name = some generation then
        let entries := c.entries.erase l.name
        ({ c.forget generation with entries, channels := c.channels.close l.channel },
          [.removed entries.size])
      else ({ c with loops := c.loops.map (setPhase generation .leaving .ended) },[])
    else (c,[])
  | none => (c,[])

def poll (clock : Timestamp) (generation : Nat) (c : Collector) : Collector × Effects :=
  let (c,es) := c.tick clock generation
  let (c,fs) := c.release generation
  (c,es++fs)

def dueAt (c : Collector) (t : Nat) : List Nat :=
  (c.loops.filter (fun l => l.phase = .polling ∧ l.due ≤ t)).map (·.generation)

def nextDue (c : Collector) : Option Nat :=
  ((c.loops.filter (·.phase = .polling)).map (·.due)).min?

def pollAll (clock : Timestamp) : List Nat → Collector → Collector × Effects
  | [],c => (c,[])
  | g :: gs,c =>
    let (c,es) := c.poll clock g
    let (c,fs) := pollAll clock gs c
    (c,es++fs)

def instant (clock : Timestamp) (t : Nat) (c : Collector) : Collector × Effects :=
  pollAll clock (c.dueAt t) { c with now := t }

def advance (clock : Timestamp) (ms : Nat) (c : Collector) : Collector × Effects :=
  Clock.runTo (fun s => s.1.nextDue)
    (fun t s => ((s.1.instant clock t).1,s.2++(s.1.instant clock t).2))
    (c.now+ms) c.now (c,[])

def notFoundMessage (name : String) : String := "no collection for "++name
def alreadyMessage (name : String) : String := "already collecting "++name
def lostMessage (name : String) : String := "poll loop for "++name++" failed"

end Collector

end HostMeter
