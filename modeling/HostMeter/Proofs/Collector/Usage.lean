import HostMeter.Proofs.Collector.Metering
set_option autoImplicit false

/-! Nothing that is sent to a usage channel gets lost, doubled or out of order: what its loops have taken
is what was sent first, and the rest still waits. Each reading that was taken is one sample, which is
either on the stream or has been dropped and counted as that. -/

namespace HostMeter

namespace Channel

variable {α : Type}

theorem offer_queued (c : Channel α) (a : α) :
    (c.offer a).2.queued = c.queued++if (c.offer a).1 = .accepted then [a] else [] := by
  unfold offer
  split
  · simp
  split <;> simp

theorem offer_of_read {c : Channel α} (h : c.read = true) (a : α) :
    c.offer a =
      if c.queued.length < c.places then (.accepted,{ c with queued := c.queued++[a] }) else (.full,c) := by
  simp only [offer,h]
  by_cases hp : c.queued.length < c.places
  · simp [hp,Nat.not_le.mpr hp]
  · simp [hp,Nat.not_lt.mp hp]

theorem take_cons {c : Channel α} {a : α} {rest : List α} (h : c.queued = a :: rest) :
    c.take = (.item a,{ c with queued := rest }) := by
  simp only [take,h]

theorem take_nil {c : Channel α} (h : c.queued = []) :
    c.take = (if c.fed then .empty else .disconnected,c) := by
  simp only [take,h]

end Channel

namespace UsageChannels

variable {cs : UsageChannels} {i j : ChannelId} {ch : UsageChannel} {u : Usage} {us : List Usage}

theorem queuedAt_eq (h : cs.get? i = some ch) : cs.queuedAt i = ch.feed.queued := by
  simp [queuedAt,h]

theorem queuedAt_add (cs : UsageChannels) (container : Container) (places : Nat) (i : ChannelId) :
    (cs.add ⟨container,.ofPlaces places⟩).queuedAt i = cs.queuedAt i := by
  simp only [queuedAt,get?,add]
  rw [List.getElem?_append]
  split
  · rfl
  · rename_i hi
    rw [List.getElem?_singleton,List.getElem?_eq_none (Nat.not_lt.mp hi)]
    split <;> rfl

theorem queuedAt_modify (cs : UsageChannels) (i j : ChannelId) (f : Channel Usage → Channel Usage) :
    (cs.modify i f).queuedAt j =
      if i = j then ((cs.get? j).map fun c => (f c.feed).queued).getD [] else cs.queuedAt j := by
  unfold queuedAt
  rw [get?_modify]
  split
  · cases cs.get? j <;> rfl
  · rfl

theorem queuedAt_close (cs : UsageChannels) (i j : ChannelId) :
    (cs.close i).queuedAt j = cs.queuedAt j := by
  rw [close,queuedAt_modify]
  split <;> rfl

theorem queuedAt_cut (cs : UsageChannels) (i j : ChannelId) :
    (cs.cut i).queuedAt j = cs.queuedAt j := by
  rw [cut,queuedAt_modify]
  split <;> rfl

theorem queuedAt_offer (cs : UsageChannels) (i j : ChannelId) (u : Usage) :
    (cs.offer i u).2.queuedAt j =
      cs.queuedAt j++if i = j ∧ (cs.offer i u).1 = .accepted then [u] else [] := by
  cases hg : cs.get? i with
  | none => simp [offer,hg]
  | some ch =>
    simp only [offer,hg,queuedAt_modify]
    by_cases hi : i = j
    · subst hi
      simp [hg,queuedAt,Channel.offer_queued]
    · simp [hi]

theorem queuedAt_take (h : cs.get? i = some ch) (hq : ch.feed.queued = u :: us) (j : ChannelId) :
    cs.queuedAt j = (if i = j then [u] else [])++(cs.take i).2.queuedAt j := by
  simp only [take,h,queuedAt_modify]
  by_cases hi : i = j
  · subst hi
    simp [h,queuedAt,hq,Channel.take_cons hq]
  · simp [hi]

end UsageChannels

namespace Happening

def sentTo (i : ChannelId) (h : List Happening) : List Usage :=
  h.filterMap fun
    | .sent j u => if j = i then some u else none
    | _ => none

def readings (h : List Happening) : List Reading :=
  h.filterMap fun
    | .taken r => some r
    | _ => none

def takenFrom (i : ChannelId) (h : List Happening) : List Usage :=
  ((readings h).filter (·.channel = i)).map (·.sample.usage)

def kept (h : List Happening) : List Sample := ((readings h).filter (·.kept)).map (·.sample)

def readOff (h : List Happening) : List Sample :=
  h.filterMap fun
    | .received s => some s
    | _ => none

variable {h h' : List Happening} {i : ChannelId}

@[simp] theorem sentTo_append : sentTo i (h++h') = sentTo i h++sentTo i h' := List.filterMap_append

@[simp] theorem readings_append : readings (h++h') = readings h++readings h' := List.filterMap_append

@[simp] theorem takenFrom_append : takenFrom i (h++h') = takenFrom i h++takenFrom i h' := by
  simp [takenFrom]

@[simp] theorem kept_append : kept (h++h') = kept h++kept h' := by
  simp [kept]

@[simp] theorem readOff_append : readOff (h++h') = readOff h++readOff h' := List.filterMap_append

end Happening

open Happening

namespace Collector

variable {c : Collector} {l : PollLoop} {ch : UsageChannel} {u : Usage} {us : List Usage} {g : Nat}
  {clock : Timestamp}

/-- All that a look of a loop can come to. -/
inductive Ticked (g : Nat) (c : Collector) : Prop
  | idle (h : ∀ l,c.loop? g = some l → l.phase ≠ .polling)
  | took (l : PollLoop) (ch : UsageChannel) (u : Usage) (us : List Usage) (hl : c.loop? g = some l)
    (hp : l.phase = .polling) (hc : c.channels.get? l.channel = some ch)
    (hq : ch.feed.queued = u :: us)
  | waited (l : PollLoop) (ch : UsageChannel) (hl : c.loop? g = some l) (hp : l.phase = .polling)
    (hc : c.channels.get? l.channel = some ch) (hq : ch.feed.queued = []) (hf : ch.feed.fed = true)
  | left (l : PollLoop) (hl : c.loop? g = some l) (hp : l.phase = .polling)
    (hq : c.channels.queuedAt l.channel = []) (hf : ¬c.channels.IsFed l.channel)

theorem ticked (g : Nat) (c : Collector) : Ticked g c := by
  by_cases hi : ∀ l,c.loop? g = some l → l.phase ≠ .polling
  · exact .idle hi
  obtain ⟨l,hl,hp⟩ : ∃ l,c.loop? g = some l ∧ l.phase = .polling := by simpa using hi
  cases hc : c.channels.get? l.channel with
  | none => exact .left l hl hp (by simp [UsageChannels.queuedAt,hc]) (by simp [UsageChannels.IsFed,hc])
  | some ch =>
    cases hq : ch.feed.queued with
    | cons u us => exact .took l ch u us hl hp hc hq
    | nil =>
      cases hf : ch.feed.fed with
      | true => exact .waited l ch hl hp hc hq hf
      | false =>
        exact .left l hl hp (by simp [UsageChannels.queuedAt,hc,hq]) (by simp [UsageChannels.IsFed,hc,hf])

theorem reading?_idle (h : ∀ l,c.loop? g = some l → l.phase ≠ .polling) :
    c.reading? clock g = none := by
  cases hl : c.loop? g with
  | none => simp [reading?,hl]
  | some l => simp [reading?,hl,h l hl]

theorem reading?_took (hl : c.loop? g = some l) (hp : l.phase = .polling)
    (hc : c.channels.get? l.channel = some ch) (hq : ch.feed.queued = u :: us) :
    c.reading? clock g = some ⟨l.channel,g,c.sample clock ch.container u,
      decide (c.stream.queued.length < c.stream.places)⟩ := by
  simp [reading?,hl,hp,hc,hq]

theorem reading?_nothing (hl : c.loop? g = some l) (hq : c.channels.queuedAt l.channel = []) :
    c.reading? clock g = none := by
  by_cases hp : l.phase = .polling
  · cases hc : c.channels.get? l.channel with
    | none => simp [reading?,hl,hp,hc]
    | some ch =>
      rw [UsageChannels.queuedAt_eq hc] at hq
      simp [reading?,hl,hp,hc,hq]
  · simp [reading?,hl,hp]

def rescheduled (g : Nat) (c : Collector) : Collector :=
  { c with loops := c.loops.map (reschedule g c.rateMs) }

def drawn (g : Nat) (i : ChannelId) (c : Collector) : Collector :=
  { c.rescheduled g with channels := (c.channels.take i).2 }

def streaming (s : Sample) (c : Collector) : Collector :=
  { c with stream := { c.stream with queued := c.stream.queued++[s] } }

theorem tick_took (hl : c.loop? g = some l) (hp : l.phase = .polling)
    (hc : c.channels.get? l.channel = some ch) (hq : ch.feed.queued = u :: us) :
    c.tick clock g = (c.drawn g l.channel).emit clock ch.container u := by
  have ht : c.channels.take l.channel = (.item u,(c.channels.take l.channel).2) := by
    simp [UsageChannels.take,hc,Channel.take_cons hq]
  simp only [tick,hl,hp,if_true,hc]
  rw [ht]
  rfl

theorem tick_waited (hl : c.loop? g = some l) (hp : l.phase = .polling)
    (hc : c.channels.get? l.channel = some ch) (hq : ch.feed.queued = []) (hf : ch.feed.fed = true) :
    c.tick clock g = (c.rescheduled g,[]) := by
  have ht : c.channels.take l.channel = (.empty,(c.channels.take l.channel).2) := by
    simp [UsageChannels.take,hc,Channel.take_nil hq,hf]
  simp only [tick,hl,hp,if_true,hc]
  rw [ht]
  rfl

theorem tick_left (hl : c.loop? g = some l) (hp : l.phase = .polling)
    (hq : c.channels.queuedAt l.channel = []) (hf : ¬c.channels.IsFed l.channel) :
    c.tick clock g =
      ({ c.rescheduled g with
        loops := (c.rescheduled g).loops.map (setPhase g .polling .leaving) },[.ended l.name]) := by
  have ht : c.channels.take l.channel = (.disconnected,(c.channels.take l.channel).2) := by
    cases hc : c.channels.get? l.channel with
    | none => simp [UsageChannels.take,hc]
    | some ch =>
      rw [UsageChannels.queuedAt_eq hc] at hq
      have hf : ch.feed.fed = false := by simpa [UsageChannels.IsFed,hc] using hf
      simp [UsageChannels.take,hc,Channel.take_nil hq,hf]
  simp only [tick,hl,hp,if_true]
  rw [ht]
  cases c.channels.get? l.channel <;> rfl

theorem emit_of_read (hr : c.stream.read = true) (clock : Timestamp) (container : Container) (u : Usage) :
    c.emit clock container u =
      if c.stream.queued.length < c.stream.places then
        (c.streaming (c.sample clock container u),[.emitted])
      else (c,[.overflowed container.name]) := by
  simp only [emit,Channel.offer_of_read hr]
  by_cases hp : c.stream.queued.length < c.stream.places
  · simp [hp,streaming]
  · simp [hp]

theorem tick_took_of_read (hr : c.stream.read = true) (hl : c.loop? g = some l) (hp : l.phase = .polling)
    (hc : c.channels.get? l.channel = some ch) (hq : ch.feed.queued = u :: us) :
    c.tick clock g =
      if c.stream.queued.length < c.stream.places then
        ((c.drawn g l.channel).streaming (c.sample clock ch.container u),[.emitted])
      else (c.drawn g l.channel,[.overflowed ch.container.name]) := by
  have hr : (c.drawn g l.channel).stream.read = true := hr
  rw [tick_took hl hp hc hq,emit_of_read hr]
  rfl

end Collector

namespace Metering

variable {a : Act} {b d e : Metering} {h h' : List Happening}

/-- What went into the channels and onto the stream between two states has come out of them or is still
there, in the same order, and the counters tell how many samples were kept and how many dropped. -/
structure Accounted (h : List Happening) (b d : Metering) : Prop where
  channels : ∀ i,b.collector.channels.queuedAt i++sentTo i h =
    takenFrom i h++d.collector.channels.queuedAt i
  stream : b.collector.stream.queued++kept h = readOff h++d.collector.stream.queued
  emitted : d.metrics.samplesEmitted = b.metrics.samplesEmitted+(readings h).countP (·.kept)
  dropped : d.metrics.samplesDropped = b.metrics.samplesDropped+(readings h).countP (!·.kept)
  alive : d.collector.stream.read = b.collector.stream.read

theorem Accounted.refl (b : Metering) : Accounted [] b b where
  channels i := by simp [sentTo,takenFrom,readings]
  stream := by simp [kept,readOff,readings]
  emitted := rfl
  dropped := rfl
  alive := rfl

theorem Accounted.trans (hb : Accounted h b d) (hd : Accounted h' d e) : Accounted (h++h') b e where
  channels i := by
    rw [sentTo_append,takenFrom_append,← List.append_assoc,hb.channels,List.append_assoc,hd.channels,
      List.append_assoc]
  stream := by
    rw [kept_append,readOff_append,← List.append_assoc,hb.stream,List.append_assoc,hd.stream,
      List.append_assoc]
  emitted := by rw [readings_append,List.countP_append,hd.emitted,hb.emitted,Nat.add_assoc]
  dropped := by rw [readings_append,List.countP_append,hd.dropped,hb.dropped,Nat.add_assoc]
  alive := hd.alive.trans hb.alive

def Sampleless (es : Collector.Effects) : Prop :=
  ∀ e ∈ es,e ≠ .emitted ∧ ∀ n,e ≠ .overflowed n

theorem setCollectionsActive_samples (m : Metrics) (k : Nat) :
    (m.setCollectionsActive k).samplesEmitted = m.samplesEmitted ∧
      (m.setCollectionsActive k).samplesDropped = m.samplesDropped := by
  unfold Metrics.setCollectionsActive
  exact ⟨rfl,rfl⟩

theorem foldl_sampleless {es : Collector.Effects} (h : Sampleless es) (m : Metrics) :
    (es.foldl (fun m e => e.count m) m).samplesEmitted = m.samplesEmitted ∧
      (es.foldl (fun m e => e.count m) m).samplesDropped = m.samplesDropped := by
  induction es generalizing m with
  | nil => exact ⟨rfl,rfl⟩
  | cons e es ih =>
    obtain ⟨hem,hov⟩ := h e List.mem_cons_self
    have hc : (e.count m).samplesEmitted = m.samplesEmitted ∧
        (e.count m).samplesDropped = m.samplesDropped := by
      cases e with
      | emitted => exact absurd rfl hem
      | overflowed n => exact absurd rfl (hov n)
      | started n rate k => exact setCollectionsActive_samples m k
      | removed k => exact setCollectionsActive_samples m k
      | refused | stopped | lost | allStopped | unheard | ended => exact ⟨rfl,rfl⟩
    have hi := ih (fun e he => h e (List.mem_cons_of_mem _ he)) (e.count m)
    rw [List.foldl_cons]
    exact ⟨hi.1.trans hc.1,hi.2.trans hc.2⟩

theorem accounted_still {r : Collector × Collector.Effects}
    (hc : ∀ i,r.1.channels.queuedAt i = b.collector.channels.queuedAt i)
    (hs : r.1.stream = b.collector.stream) (he : Sampleless r.2)
    (hh : readings h = [] ∧ readOff h = [] ∧ ∀ i,sentTo i h = []) : Accounted h b (b.adopt r) where
  channels i := by
    rw [takenFrom,hh.1,hh.2.2 i,List.append_nil]
    exact (hc i).symm
  stream := by
    rw [kept,hh.1,hh.2.1]
    show b.collector.stream.queued++[] = [] ++r.1.stream.queued
    rw [hs,List.append_nil]
    rfl
  emitted := by
    rw [hh.1]
    exact (foldl_sampleless he b.metrics).1
  dropped := by
    rw [hh.1]
    exact (foldl_sampleless he b.metrics).2
  alive := congrArg Channel.read hs

theorem sampleless_nil : Sampleless [] := by
  simp [Sampleless]

theorem nothing_happens : readings [] = [] ∧ readOff [] = [] ∧ ∀ i,sentTo i [] = [] :=
  ⟨rfl,rfl,fun _ => rfl⟩

theorem happens_tick_nothing {clock : Timestamp} {g : Nat} {c : Collector}
    (h : c.reading? clock g = none) : (Act.tick clock g).happens c = [] := by
  simp [Act.happens,h]

theorem accounted_tick (hr : b.collector.stream.read = true) (clock : Timestamp) (g : Nat) :
    Accounted ((Act.tick clock g).happens b.collector) b (b.adopt (b.collector.tick clock g)) := by
  cases Collector.ticked g b.collector with
  | idle hi =>
    rw [happens_tick_nothing (Collector.reading?_idle hi),Collector.tick_idle hi]
    exact accounted_still (fun _ => rfl) rfl sampleless_nil nothing_happens
  | waited l ch hl hp hc hq hf =>
    have hn : b.collector.channels.queuedAt l.channel = [] := by
      rw [UsageChannels.queuedAt_eq hc,hq]
    rw [happens_tick_nothing (Collector.reading?_nothing hl hn),Collector.tick_waited hl hp hc hq hf]
    exact accounted_still (fun _ => rfl) rfl sampleless_nil nothing_happens
  | left l hl hp hq hf =>
    rw [happens_tick_nothing (Collector.reading?_nothing hl hq),Collector.tick_left hl hp hq hf]
    exact accounted_still (fun _ => rfl) rfl (by simp [Sampleless]) nothing_happens
  | took l ch u us hl hp hc hq =>
    have hh : (Act.tick clock g).happens b.collector =
        [.taken ⟨l.channel,g,b.collector.sample clock ch.container u,
          decide (b.collector.stream.queued.length < b.collector.stream.places)⟩] := by
      simp [Act.happens,Collector.reading?_took hl hp hc hq]
    have hch : ∀ (kept : Bool) (i : ChannelId),
        b.collector.channels.queuedAt i =
          takenFrom i [.taken ⟨l.channel,g,b.collector.sample clock ch.container u,kept⟩]++
            (b.collector.channels.take l.channel).2.queuedAt i := by
      intro kept i
      rw [UsageChannels.queuedAt_take hc hq i]
      by_cases hi : l.channel = i <;> simp [takenFrom,readings,hi,Collector.sample]
    rw [hh,Collector.tick_took_of_read hr hl hp hc hq]
    by_cases hroom : b.collector.stream.queued.length < b.collector.stream.places
    · rw [if_pos hroom,decide_eq_true hroom]
      exact {
        channels := fun i => (List.append_nil _).trans (hch true i)
        stream := by
          simp [kept,readOff,readings,adopt,Collector.streaming,Collector.drawn,Collector.rescheduled]
        emitted := rfl
        dropped := rfl
        alive := rfl }
    · rw [if_neg hroom,decide_eq_false hroom]
      exact {
        channels := fun i => (List.append_nil _).trans (hch false i)
        stream := by simp [kept,readOff,readings,adopt,Collector.drawn,Collector.rescheduled]
        emitted := rfl
        dropped := rfl
        alive := rfl }

theorem accounted_offer (i : ChannelId) (u : Usage) :
    Accounted ((Act.offer i u).happens b.collector) b (b.step (.offer i u)) := by
  by_cases hf : b.collector.channels.IsFed i
  · have hs : b.step (.offer i u) =
        b.adopt ({ b.collector with channels := (b.collector.channels.offer i u).2 },[]) := by
      simp [step,Act.act,hf]
    have hq := fun j => UsageChannels.queuedAt_offer b.collector.channels i j u
    rw [hs]
    by_cases ha : (b.collector.channels.offer i u).1 = .accepted
    · have hh : (Act.offer i u).happens b.collector = [.sent i u] := by simp [Act.happens,hf,ha]
      simp only [ha,and_true] at hq
      rw [hh]
      exact {
        channels := fun j => by
          show _ = _++(b.collector.channels.offer i u).2.queuedAt j
          rw [hq]
          by_cases hi : i = j <;> simp [sentTo,takenFrom,readings,hi]
        stream := List.append_nil _
        emitted := rfl
        dropped := rfl
        alive := rfl }
    · have hh : (Act.offer i u).happens b.collector = [] := by simp [Act.happens,ha]
      simp only [ha,and_false,if_false,List.append_nil] at hq
      rw [hh]
      exact accounted_still hq rfl sampleless_nil nothing_happens
  · have hh : (Act.offer i u).happens b.collector = [] := by simp [Act.happens,hf]
    have hs : b.step (.offer i u) = b.adopt (b.collector,[]) := by simp [step,Act.act,hf]
    rw [hh,hs]
    exact accounted_still (fun _ => rfl) rfl sampleless_nil nothing_happens

theorem accounted_read : Accounted (Act.read.happens b.collector) b (b.step .read) := by
  have hs : b.step .read = ⟨{ b.collector with stream := b.collector.stream.take.2 },b.metrics⟩ := rfl
  rw [hs]
  cases hq : b.collector.stream.queued with
  | nil =>
    have ht := Channel.take_nil hq
    have hh : Act.read.happens b.collector = [] := by
      cases hf : b.collector.stream.fed <;> simp [Act.happens,ht,hf]
    rw [hh,ht]
    exact Accounted.refl b
  | cons s rest =>
    have ht := Channel.take_cons hq
    have hh : Act.read.happens b.collector = [.received s] := by simp [Act.happens,ht]
    rw [hh,ht]
    exact {
      channels := fun i => List.append_nil _
      stream := by simp [kept,readOff,readings,hq]
      emitted := rfl
      dropped := rfl
      alive := rfl }

theorem accounted_collect (i : ChannelId) :
    Accounted ((Act.collect i).happens b.collector) b (b.step (.collect i)) := by
  by_cases hi : i < b.collector.channels.next
  · have hs : b.step (.collect i) = b.adopt (b.collector.collect i).2 := by simp [step,Act.act,hi]
    rw [hs]
    cases hc : b.collector.isCollecting (b.collector.channels.name i) with
    | true =>
      have hh : (Act.collect i).happens b.collector = [] := by
        simp [Act.happens,Collector.collect_refused hc]
      rw [hh,Collector.collect_refused hc]
      exact accounted_still (UsageChannels.queuedAt_close _ i) rfl (by simp [Sampleless])
        nothing_happens
    | false =>
      have hh : (Act.collect i).happens b.collector =
          [.started b.collector.nextGeneration i] := by
        simp [Act.happens,hi,Collector.collect_started hc]
      rw [hh,Collector.collect_started hc]
      refine accounted_still ?_ rfl (by simp [Sampleless]) ⟨rfl,rfl,fun _ => rfl⟩
      intro j
      simp only
      split
      · exact UsageChannels.queuedAt_close _ i j
      · rfl
  · have hs : b.step (.collect i) = b := by simp [step,Act.act,hi,adopt]
    have hh : (Act.collect i).happens b.collector = [] := by simp [Act.happens,hi]
    rw [hs,hh]
    exact Accounted.refl b

theorem accounted_step (hr : b.collector.stream.read = true) (a : Act) :
    Accounted (a.happens b.collector) b (b.step a) := by
  cases a with
  | supply container places =>
    exact accounted_still (fun i => UsageChannels.queuedAt_add _ container places i) rfl sampleless_nil
      nothing_happens
  | offer i u => exact accounted_offer i u
  | cut i => exact accounted_still (UsageChannels.queuedAt_cut _ i) rfl sampleless_nil nothing_happens
  | read => exact accounted_read
  | wait t => exact accounted_still (fun _ => rfl) rfl sampleless_nil nothing_happens
  | collect i => exact accounted_collect i
  | cancel name =>
    show Accounted [] b (b.adopt (b.collector.cancel name).2)
    cases hn : b.collector.entries.get? name with
    | none =>
      rw [Collector.cancel_none hn]
      exact accounted_still (fun _ => rfl) rfl sampleless_nil nothing_happens
    | some g =>
      rw [Collector.cancel_some hn]
      exact accounted_still (fun _ => rfl) rfl (by simp [Sampleless]) nothing_happens
  | cancelAll =>
    exact accounted_still (fun _ => rfl) rfl (by simp [Sampleless,Act.act]) nothing_happens
  | observe g => exact accounted_still (fun _ => rfl) rfl sampleless_nil nothing_happens
  | finish g =>
    show Accounted [] b (b.adopt ((b.collector.finish g).2,[]))
    rcases b.collector.finish_cases g with hd | ⟨l,-,-,hd⟩ <;> rw [hd] <;>
      exact accounted_still (fun _ => rfl) rfl sampleless_nil nothing_happens
  | tick clock g => exact accounted_tick hr clock g
  | release g =>
    show Accounted [] b (b.adopt (b.collector.release g))
    rcases b.collector.release_cases g with hd | ⟨l,-,-,⟨-,hd⟩ | ⟨-,hd⟩⟩ <;> rw [hd]
    · exact accounted_still (fun _ => rfl) rfl sampleless_nil nothing_happens
    · exact accounted_still (UsageChannels.queuedAt_close _ l.channel) rfl (by simp [Sampleless])
        nothing_happens
    · exact accounted_still (fun _ => rfl) rfl sampleless_nil nothing_happens

theorem accounted_run (hr : b.collector.stream.read = true) (acts : List Act) :
    Accounted (history acts b) b (run acts b) := by
  induction acts generalizing b with
  | nil => exact Accounted.refl b
  | cons a acts ih =>
    have hs := accounted_step hr a
    exact hs.trans (ih (hs.alive.trans hr))

end Metering

end HostMeter
