import HostMeter.Meter
import HostMeter.Proofs.Collector.Fed
set_option autoImplicit false

/-! A collector with all that goes on around it, one act at a time: channels are opened, fed and
abandoned, samples are read off the stream, and what the collector does itself comes in its smallest
steps, so that those of several loops and callers can be put together in any order. -/

namespace HostMeter

structure Metering where
  collector : Collector
  metrics : Metrics
  deriving DecidableEq, Repr

namespace Metering

/-- What is done to a collector or by a part of it. -/
inductive Act
  | supply (container : Container) (places : Nat)
  | offer (i : ChannelId) (u : Usage)
  | cut (i : ChannelId)
  | read
  | wait (t : Nat)
  | collect (i : ChannelId)
  | cancel (name : String)
  | cancelAll
  | observe (g : Nat)
  | finish (g : Nat)
  | tick (clock : Timestamp) (g : Nat)
  | release (g : Nat)
  deriving DecidableEq, Repr

end Metering

/-- A reading that a loop has taken from its channel, as a sample. It is kept if the stream has a place
for it. -/
structure Reading where
  channel : ChannelId
  loop : Nat
  sample : Sample
  kept : Bool
  deriving DecidableEq, Repr

/-- What an act has come to for those who send and receive. -/
inductive Happening
  | sent (i : ChannelId) (u : Usage)
  | started (g : Nat) (i : ChannelId)
  | taken (r : Reading)
  | received (s : Sample)
  deriving DecidableEq, Repr

namespace UsageChannels

def queuedAt (cs : UsageChannels) (i : ChannelId) : List Usage :=
  ((cs.get? i).map (·.feed.queued)).getD []

end UsageChannels

namespace Collector

/-- The reading that the loop of a generation takes when it looks now. -/
def reading? (clock : Timestamp) (g : Nat) (c : Collector) : Option Reading :=
  match c.loop? g with
  | some l =>
    if l.phase = .polling then
      (c.channels.get? l.channel).bind fun ch => ch.feed.queued.head?.map fun u =>
        ⟨l.channel,g,c.sample clock ch.container u,decide (c.stream.queued.length < c.stream.places)⟩
    else none
  | none => none

end Collector

/-! What stopping and leaving do, one way at a time. -/

namespace Collector

variable {c : Collector} {n : String} {g : Nat}

theorem cancel_none (h : c.entries.get? n = none) : c.cancel n = (none,c,[]) := by
  simp [cancel,h]

theorem cancel_some (h : c.entries.get? n = some g) :
    c.cancel n =
      (some g,
        { c with entries := c.entries.erase n, loops := c.loops.map (setPhase g .polling .cancelled) },
        [.removed (c.entries.erase n).size]) := by
  simp [cancel,h]

theorem finish_cases (g : Nat) (c : Collector) :
    (c.finish g).2 = c ∨ ∃ l,c.loop? g = some l ∧ (l.phase = .ended ∨ l.phase = .crashed) ∧
      (c.finish g).2 = c.forget g := by
  unfold finish
  split
  · exact .inl rfl
  · rename_i l hl
    split
    · rename_i hp
      exact .inr ⟨l,hl,.inl hp,rfl⟩
    · rename_i hp
      exact .inr ⟨l,hl,.inr hp,rfl⟩
    · exact .inl rfl

theorem release_cases (g : Nat) (c : Collector) :
    c.release g = (c,[]) ∨ ∃ l,c.loop? g = some l ∧ l.phase = .leaving ∧
      ((c.entries.get? l.name = some g ∧
          c.release g =
            ({ c.forget g with
              entries := c.entries.erase l.name
              channels := c.channels.close l.channel },[.removed (c.entries.erase l.name).size])) ∨
        (c.entries.get? l.name ≠ some g ∧
          c.release g = ({ c with loops := c.loops.map (setPhase g .leaving .ended) },[]))) := by
  unfold release
  split
  · rename_i l hl
    by_cases hp : l.phase = .leaving
    · rw [if_pos hp]
      by_cases he : c.entries.get? l.name = some g
      · rw [if_pos he]
        exact .inr ⟨l,hl,hp,.inl ⟨he,rfl⟩⟩
      · rw [if_neg he]
        exact .inr ⟨l,hl,hp,.inr ⟨he,rfl⟩⟩
    · rw [if_neg hp]
      exact .inl rfl
  · exact .inl rfl

end Collector

namespace Metering

namespace Act

/-- An act, with what it shows in the log and the counters. A producer that has gone offers nothing, and
only a channel that has been opened is handed over. -/
def act : Act → Collector → Collector × Collector.Effects
  | .supply container places,c =>
    ({ c with channels := c.channels.add ⟨container,.ofPlaces places⟩ },[])
  | .offer i u,c =>
    (if c.channels.IsFed i then { c with channels := (c.channels.offer i u).2 } else c,[])
  | .cut i,c => ({ c with channels := c.channels.cut i },[])
  | .read,c => ({ c with stream := c.stream.take.2 },[])
  | .wait t,c => ({ c with now := t },[])
  | .collect i,c => if i < c.channels.next then (c.collect i).2 else (c,[])
  | .cancel name,c => (c.cancel name).2
  | .cancelAll,c => (c.cancelAll,[.removed 0])
  | .observe g,c => (c.observe g,[])
  | .finish g,c => ((c.finish g).2,[])
  | .tick clock g,c => c.tick clock g
  | .release g,c => c.release g

def happens : Act → Collector → List Happening
  | .offer i u,c =>
    if c.channels.IsFed i ∧ (c.channels.offer i u).1 = .accepted then [.sent i u] else []
  | .collect i,c => if i < c.channels.next ∧ (c.collect i).1 then [.started c.nextGeneration i] else []
  | .read,c => match c.stream.take.1 with
    | .item s => [.received s]
    | _ => []
  | .tick clock g,c => ((c.reading? clock g).map .taken).toList
  | _,_ => []

def isTick (g : Nat) : Act → Bool
  | .tick _ g' => g' = g
  | _ => false

def isRelease (g : Nat) : Act → Bool
  | .release g' => g' = g
  | _ => false

def isStop (name : String) : Act → Bool
  | .cancel n => n = name
  | .cancelAll => true
  | _ => false

end Act

def ofSettings (rateMs places : Nat) (m : Metrics) : Metering := ⟨.ofSettings rateMs places,m⟩

def adopt (b : Metering) (r : Collector × Collector.Effects) : Metering :=
  ⟨r.1,r.2.foldl (fun m e => e.count m) b.metrics⟩

def step (a : Act) (b : Metering) : Metering := b.adopt (a.act b.collector)

def run (acts : List Act) (b : Metering) : Metering := acts.foldl (fun b a => b.step a) b

def history : List Act → Metering → List Happening
  | [],_ => []
  | a :: acts,b => a.happens b.collector++history acts (b.step a)

variable {b : Metering} {acts acts' : List Act} {a : Act}

theorem run_cons (a : Act) (acts : List Act) (b : Metering) :
    run (a :: acts) b = run acts (b.step a) := rfl

theorem run_append (acts acts' : List Act) (b : Metering) :
    run (acts++acts') b = run acts' (run acts b) := List.foldl_append

/-! What the collector does for one caller is a run of acts with nobody in between, and so is a look of all
loops that are due. -/

theorem adopt_append (b : Metering) (c d : Collector) (es fs : Collector.Effects) :
    (b.adopt (c,es)).adopt (d,fs) = b.adopt (d,es++fs) := by
  simp [adopt,List.foldl_append]

/-- Effects that no counter shows. -/
def Silent (es : Collector.Effects) : Prop := ∀ e ∈ es,∀ m : Metrics,e.count m = m

theorem foldl_silent {es : Collector.Effects} (h : Silent es) (m : Metrics) :
    es.foldl (fun m e => e.count m) m = m := by
  induction es with
  | nil => rfl
  | cons e es ih =>
    rw [List.foldl_cons,h e List.mem_cons_self]
    exact ih fun e he => h e (List.mem_cons_of_mem _ he)

theorem run_poll (clock : Timestamp) (g : Nat) (b : Metering) :
    run [.tick clock g,.release g] b = b.adopt (b.collector.poll clock g) := adopt_append ..

theorem run_pollAll (clock : Timestamp) (gs : List Nat) (b : Metering) :
    run (gs.flatMap fun g => [.tick clock g,.release g]) b =
      b.adopt (b.collector.pollAll clock gs) := by
  induction gs generalizing b with
  | nil => rfl
  | cons g gs ih =>
    rw [List.flatMap_cons,run_append,run_poll,ih]
    exact adopt_append ..

theorem run_instant (clock : Timestamp) (t : Nat) (b : Metering) :
    run (.wait t :: (b.collector.dueAt t).flatMap fun g => [.tick clock g,.release g]) b =
      b.adopt (b.collector.instant clock t) := by
  rw [run_cons,run_pollAll]
  rfl

theorem exists_run_advance (clock : Timestamp) (ms : Nat) (b : Metering) :
    ∃ acts,run acts b = b.adopt (b.collector.advance clock ms) := by
  let P := fun s : Collector × Collector.Effects => ∃ acts,run acts b = b.adopt s
  apply Clock.runTo_induction (P := P)
  · rintro t ⟨c,es⟩ ⟨acts,hacts⟩
    refine ⟨acts++.wait t :: (c.dueAt t).flatMap fun g => [.tick clock g,.release g],?_⟩
    rw [run_append,hacts]
    exact (run_instant clock t (b.adopt (c,es))).trans (adopt_append ..)
  · exact ⟨[],rfl⟩

theorem exists_run_stop (name : String) (b : Metering) :
    ∃ acts,run acts b = b.adopt (b.collector.stop name).2 := by
  cases hc : b.collector.entries.get? name with
  | none =>
    refine ⟨[],?_⟩
    simp [Collector.stop,Collector.cancel,hc,run,adopt]
  | some g =>
    refine ⟨[.cancel name,.observe g,.finish g],?_⟩
    have hrun : run [.cancel name,.observe g,.finish g] b =
        b.adopt ((((b.collector.cancel name).2.1.observe g).finish g).2,
          (b.collector.cancel name).2.2) := by
      simp [run,step,Act.act,adopt]
    rw [hrun]
    simp only [Collector.stop,Collector.cancel,hc]
    split
    · rename_i hf
      rw [hf]
      have hs : Silent [.stopped name] := by simp [Silent,Collector.Effect.count]
      simp [adopt,foldl_silent hs]
    · rename_i hf
      rw [hf]

theorem finishAll_silent (es : List (String × Nat)) (c : Collector) :
    Silent (Collector.finishAll es c).2.2 := by
  induction es generalizing c with
  | nil => simp [Silent,Collector.finishAll]
  | cons e es ih =>
    intro e he
    simp only [Collector.finishAll] at he
    split at he
    · exact ih _ e he
    · rcases List.mem_cons.mp he with rfl | he
      · exact fun m => rfl
      · exact ih _ e he

theorem run_finishAll (es : List (String × Nat)) (b : Metering) :
    run (es.flatMap fun e => [.observe e.2,.finish e.2]) b =
      b.adopt ((Collector.finishAll es b.collector).2.1,[]) := by
  induction es generalizing b with
  | nil => rfl
  | cons e es ih =>
    rw [List.flatMap_cons,run_append,ih]
    simp only [Collector.finishAll,run,step,Act.act,adopt,List.foldl_cons,List.foldl_nil]
    split <;> rename_i hf <;> rw [hf]

/-- A stop of everything cancels all loops at once, then waits for one after the other. -/
theorem run_stopAll (b : Metering) :
    run (.cancelAll :: b.collector.entries.entries.flatMap fun e => [.observe e.2,.finish e.2]) b =
      b.adopt b.collector.stopAll.2 := by
  rw [run_cons,run_finishAll]
  have hs := finishAll_silent b.collector.entries.entries b.collector.cancelAll
  have ha : ∀ (k : Nat) (m : Metrics),(Collector.Effect.allStopped k).count m = m := fun _ _ => rfl
  simp [Collector.stopAll,step,Act.act,adopt,foldl_silent hs,ha]

end Metering

namespace Meter

variable {δ ρ α : Type}

def metering (m : Meter δ ρ) : Metering := ⟨m.collector,m.metrics⟩

theorem metering_note (n : Notice) (m : Meter δ ρ) : (note n m).metering = m.metering := rfl

theorem metering_noteAll (ns : List Notice) (m : Meter δ ρ) : (noteAll ns m).metering = m.metering := by
  induction ns generalizing m with
  | nil => rfl
  | cons n ns ih => exact (ih (note n m)).trans (metering_note n m)

theorem metering_heed (m : Meter δ ρ) (e : Collector.Effect) :
    (m.heed e).metering = ⟨m.collector,e.count m.metrics⟩ := metering_noteAll ..

theorem metering_foldl_heed (es : Collector.Effects) (m : Meter δ ρ) :
    (es.foldl heed m).metering = ⟨m.collector,es.foldl (fun m e => e.count m) m.metrics⟩ := by
  induction es generalizing m with
  | nil => rfl
  | cons e es ih =>
    have hb := metering_heed m e
    simp only [metering,Metering.mk.injEq] at hb
    rw [List.foldl_cons,ih,hb.1,hb.2]
    rfl

theorem metering_sampling (f : Collector → α × Collector × Collector.Effects) (m : Meter δ ρ) :
    (m.sampling f).2.metering = m.metering.adopt (f m.collector).2 := metering_foldl_heed ..

end Meter

end HostMeter
