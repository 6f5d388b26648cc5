import HostMeter.Proofs.Collector.Usage
set_option autoImplicit false

/-! All that one act can do to the channels of a collector, and to its entries and its loops. -/

namespace HostMeter

namespace Metering

variable {a : Act} {c : Collector}

/-- What an act can do to the channels: nothing, or open one, or change the queue of one. No producer
comes back. -/
inductive Rechanneled (cs : UsageChannels) : UsageChannels → Prop
  | same : Rechanneled cs cs
  | added (container : Container) (places : Nat) :
    Rechanneled cs (cs.add ⟨container,.ofPlaces places⟩)
  | modified (i : ChannelId) (f : Channel Usage → Channel Usage)
    (hf : ∀ ch,ch.fed = false → (f ch).fed = false) : Rechanneled cs (cs.modify i f)

theorem rechanneled_take (cs : UsageChannels) (i : ChannelId) : Rechanneled cs (cs.take i).2 := by
  unfold UsageChannels.take
  split
  · exact .same
  · exact .modified i (fun f => f.take.2) fun ch hf => (Channel.take_fed ch).trans hf

theorem rechanneled_close (cs : UsageChannels) (i : ChannelId) : Rechanneled cs (cs.close i) :=
  .modified i _ fun _ hf => hf

theorem rechanneled_offer (cs : UsageChannels) (i : ChannelId) (u : Usage) :
    Rechanneled cs (cs.offer i u).2 := by
  unfold UsageChannels.offer
  split
  · exact .same
  · refine .modified i (fun f => (f.offer u).2) fun ch hf => ?_
    unfold Channel.offer
    split
    · exact hf
    split <;> exact hf

theorem rechanneled_tick (clock : Timestamp) (g : Nat) (c : Collector) :
    Rechanneled c.channels (c.tick clock g).1.channels := by
  cases c.ticked g with
  | idle hi =>
    rw [Collector.tick_idle hi]
    exact .same
  | took l ch u us hl hp hc hq =>
    rw [Collector.tick_took hl hp hc hq,(Collector.emit_fields clock ch.container u _).2.2.2]
    exact rechanneled_take c.channels l.channel
  | waited l ch hl hp hc hq hf =>
    rw [Collector.tick_waited hl hp hc hq hf]
    exact .same
  | left l hl hp hq hf =>
    rw [Collector.tick_left hl hp hq hf]
    exact .same

theorem rechanneled_act (a : Act) (c : Collector) : Rechanneled c.channels (a.act c).1.channels := by
  cases a with
  | supply container places => exact .added container places
  | offer i u =>
    show Rechanneled c.channels (if c.channels.IsFed i then _ else c : Collector).channels
    split
    · exact rechanneled_offer c.channels i u
    · exact .same
  | cut i => exact .modified i _ fun _ _ => rfl
  | collect i =>
    show Rechanneled c.channels (if i < c.channels.next then (c.collect i).2 else (c,[])).1.channels
    split
    · cases hc : c.isCollecting (c.channels.name i) with
      | true =>
        rw [Collector.collect_refused hc]
        exact rechanneled_close c.channels i
      | false =>
        rw [Collector.collect_started hc]
        simp only
        split
        · exact rechanneled_close c.channels i
        · exact .same
    · exact .same
  | cancel name =>
    show Rechanneled c.channels (c.cancel name).2.1.channels
    cases hn : c.entries.get? name with
    | none =>
      rw [Collector.cancel_none hn]
      exact .same
    | some g =>
      rw [Collector.cancel_some hn]
      exact .same
  | finish g =>
    show Rechanneled c.channels (c.finish g).2.channels
    rcases c.finish_cases g with hd | ⟨l,-,-,hd⟩ <;> rw [hd] <;> exact .same
  | tick clock g => exact rechanneled_tick clock g c
  | release g =>
    show Rechanneled c.channels (c.release g).1.channels
    rcases c.release_cases g with hd | ⟨l,-,-,⟨-,hd⟩ | ⟨-,hd⟩⟩ <;> rw [hd]
    · exact .same
    · exact rechanneled_close c.channels l.channel
    · exact .same
  | read | wait t | cancelAll | observe g => exact .same

variable {cs ds : UsageChannels} {i : ChannelId}

theorem Rechanneled.container (h : Rechanneled cs ds) {container : Container}
    (hc : (cs.get? i).map (·.container) = some container) :
    (ds.get? i).map (·.container) = some container := by
  cases h with
  | same => exact hc
  | added c places =>
    obtain ⟨ch,hg,rfl⟩ := Option.map_eq_some_iff.mp hc
    have hi : i < cs.all.length := (List.getElem?_eq_some_iff.mp hg).1
    show (((cs.all++[_])[i]?).map (·.container)) = _
    rw [List.getElem?_append_left hi]
    exact hc
  | modified j f hf =>
    rw [UsageChannels.get?_modify]
    split
    · rw [Option.map_map]
      exact hc
    · exact hc

theorem Rechanneled.next_le (h : Rechanneled cs ds) : cs.next ≤ ds.next := by
  cases h with
  | same => exact Nat.le_refl _
  | added c places => simp [UsageChannels.next,UsageChannels.add]
  | modified j f hf => simp [UsageChannels.next,UsageChannels.modify]

theorem Rechanneled.name (h : Rechanneled cs ds) (hi : i < cs.next) : ds.name i = cs.name i := by
  have hg : cs.get? i = some cs.all[i] := List.getElem?_eq_getElem hi
  have hd := h.container (congrArg (Option.map (·.container)) hg)
  obtain ⟨ch,hg',hc⟩ := Option.map_eq_some_iff.mp hd
  simp [UsageChannels.name,hg,hg',hc]

theorem Rechanneled.not_isFed (h : Rechanneled cs ds) (hi : i < cs.next) (hf : ¬cs.IsFed i) :
    ¬ds.IsFed i := by
  rintro ⟨ch,hg,hfed⟩
  cases h with
  | same => exact hf ⟨ch,hg,hfed⟩
  | added c places =>
    have hg' : (cs.all++[_])[i]? = some ch := hg
    rw [List.getElem?_append_left hi] at hg'
    exact hf ⟨ch,hg',hfed⟩
  | modified j f hff =>
    rw [UsageChannels.get?_modify] at hg
    split at hg
    · obtain ⟨ch',hg',rfl⟩ := Option.map_eq_some_iff.mp hg
      refine hf ⟨ch',hg',?_⟩
      cases hfed' : ch'.feed.fed with
      | true => rfl
      | false =>
        have hfed : (f ch'.feed).fed = true := hfed
        rw [hff _ hfed'] at hfed
        cases hfed
    · exact hf ⟨ch,hg,hfed⟩

/-- What an act can do to the entries and the loops. -/
inductive Reshaped (a : Act) (c d : Collector) : Prop
  | kept (he : d.entries = c.entries) (hl : d.loops = c.loops)
    (hn : d.nextGeneration = c.nextGeneration)
  | mapped (f : PollLoop → PollLoop)
    (hf : ∀ l,(f l).generation = l.generation ∧ (f l).channel = l.channel ∧ (f l).name = l.name)
    (hp : ∀ l,(f l).phase = l.phase ∨ l.phase = .cancelled ∧ (f l).phase = .ended ∨
      a.isTick l.generation = true ∧ l.phase = .polling ∧ (f l).phase = .leaving ∨
        a.isRelease l.generation = true ∧ l.phase = .leaving ∧ (f l).phase = .ended)
    (he : d.entries = c.entries) (hl : d.loops = c.loops.map f)
    (hn : d.nextGeneration = c.nextGeneration)
  | started (i : ChannelId) (hi : i < c.channels.next)
    (hs : a.happens c = [.started c.nextGeneration i])
    (hc : c.isCollecting (c.channels.name i) = false)
    (he : d.entries = c.entries.insert (c.channels.name i) c.nextGeneration)
    (hl : d.loops = c.loops++[c.freshLoop (c.channels.name i) i])
    (hn : d.nextGeneration = c.nextGeneration+1)
  | cancelled (n : String) (g : Nat) (hs : a.isStop n = true) (hg : c.entries.get? n = some g)
    (he : d.entries = c.entries.erase n)
    (hl : d.loops = c.loops.map (Collector.setPhase g .polling .cancelled))
    (hn : d.nextGeneration = c.nextGeneration)
  | cancelledAll (hs : ∀ n,a.isStop n = true) (hd : d = c.cancelAll)
  | forgotten (l : PollLoop) (g : Nat) (hg : c.loop? g = some l)
    (hp : l.phase = .ended ∨ l.phase = .crashed)
    (he : d.entries = c.entries) (hl : d.loops = c.loops.filter (·.generation ≠ g))
    (hn : d.nextGeneration = c.nextGeneration)
  | released (l : PollLoop) (g : Nat) (hs : a.isRelease g = true) (hg : c.loop? g = some l)
    (hp : l.phase = .leaving) (hn : c.entries.get? l.name = some g)
    (he : d.entries = c.entries.erase l.name) (hl : d.loops = c.loops.filter (·.generation ≠ g))
    (hn : d.nextGeneration = c.nextGeneration)

theorem setPhase_fields (g : Nat) (x y : Phase) (l : PollLoop) :
    (Collector.setPhase g x y l).generation = l.generation ∧
      (Collector.setPhase g x y l).channel = l.channel ∧
      (Collector.setPhase g x y l).name = l.name := by
  unfold Collector.setPhase
  split <;> exact ⟨rfl,rfl,rfl⟩

theorem reshaped_tick (clock : Timestamp) (g : Nat) (c : Collector) :
    Reshaped (.tick clock g) c (c.tick clock g).1 := by
  have hf := fun l => Collector.reschedule_fields g c.rateMs l
  have hch := fun l => Collector.reschedule_channel g c.rateMs l
  cases c.ticked g with
  | idle hi =>
    rw [Collector.tick_idle hi]
    exact .kept rfl rfl rfl
  | took l ch u us hl hp hc hq =>
    rw [Collector.tick_took hl hp hc hq]
    obtain ⟨he,hls,hn,-⟩ := Collector.emit_fields clock ch.container u (c.drawn g l.channel)
    exact .mapped _ (fun l => ⟨(hf l).1,hch l,(hf l).2.1⟩) (fun l => .inl (hf l).2.2) he hls hn
  | waited l ch hl hp hc hq hfed =>
    rw [Collector.tick_waited hl hp hc hq hfed]
    exact .mapped _ (fun l => ⟨(hf l).1,hch l,(hf l).2.1⟩) (fun l => .inl (hf l).2.2) rfl rfl rfl
  | left l hl hp hq hfed =>
    rw [Collector.tick_left hl hp hq hfed]
    refine .mapped (fun l => Collector.setPhase g .polling .leaving (Collector.reschedule g c.rateMs l))
      ?_ ?_ rfl (List.map_map ..) rfl
    · intro l
      obtain ⟨h₁,h₂,h₃⟩ := setPhase_fields g .polling .leaving (Collector.reschedule g c.rateMs l)
      exact ⟨h₁.trans (hf l).1,h₂.trans (hch l),h₃.trans (hf l).2.1⟩
    · intro l
      by_cases hl : l.generation = g ∧ l.phase = .polling
      · exact .inr (.inr (.inl ⟨by simp [Act.isTick,hl],hl.2,by simp [Collector.setPhase,hf,hl]⟩))
      · exact .inl (by simp [Collector.setPhase,hf,hl])

theorem reshaped_act (a : Act) (c : Collector) : Reshaped a c (a.act c).1 := by
  cases a with
  | collect i =>
    by_cases hi : i < c.channels.next
    · have hd : ((Act.collect i).act c).1 = (c.collect i).2.1 := by simp [Act.act,hi]
      rw [hd]
      cases hc : c.isCollecting (c.channels.name i) with
      | true =>
        rw [Collector.collect_refused hc]
        exact .kept rfl rfl rfl
      | false =>
        have hs : (Act.collect i).happens c = [.started c.nextGeneration i] := by
          simp [Act.happens,hi,Collector.collect_started hc]
        rw [Collector.collect_started hc]
        exact .started i hi hs hc rfl rfl rfl
    · have hd : ((Act.collect i).act c).1 = c := by simp [Act.act,hi]
      rw [hd]
      exact .kept rfl rfl rfl
  | cancel n =>
    show Reshaped (.cancel n) c (c.cancel n).2.1
    cases hn : c.entries.get? n with
    | none =>
      rw [Collector.cancel_none hn]
      exact .kept rfl rfl rfl
    | some g =>
      rw [Collector.cancel_some hn]
      exact .cancelled n g (by simp [Act.isStop]) hn rfl rfl rfl
  | cancelAll => exact .cancelledAll (fun _ => rfl) rfl
  | observe g =>
    refine .mapped (Collector.setPhase g .cancelled .ended) (setPhase_fields g .cancelled .ended) ?_
      rfl rfl rfl
    intro l
    by_cases hl : l.generation = g ∧ l.phase = .cancelled
    · exact .inr (.inl ⟨hl.2,by simp [Collector.setPhase,hl]⟩)
    · exact .inl (by simp [Collector.setPhase,hl])
  | finish g =>
    show Reshaped (.finish g) c (c.finish g).2
    rcases c.finish_cases g with hd | ⟨l,hl,hp,hd⟩ <;> rw [hd]
    · exact .kept rfl rfl rfl
    · exact .forgotten l g hl hp rfl rfl rfl
  | tick clock g => exact reshaped_tick clock g c
  | release g =>
    show Reshaped (.release g) c (c.release g).1
    have ha : (Act.release g).isRelease g = true := by simp [Act.isRelease]
    rcases c.release_cases g with hd | ⟨l,hl,hp,⟨hn,hd⟩ | ⟨-,hd⟩⟩ <;> rw [hd]
    · exact .kept rfl rfl rfl
    · exact .released l g ha hl hp hn rfl rfl rfl
    · refine .mapped (Collector.setPhase g .leaving .ended) (setPhase_fields g .leaving .ended) ?_
        rfl rfl rfl
      intro l
      by_cases hl : l.generation = g ∧ l.phase = .leaving
      · exact .inr (.inr (.inr ⟨by simp [Act.isRelease,hl],hl.2,by simp [Collector.setPhase,hl]⟩))
      · exact .inl (by simp [Collector.setPhase,hl])
  | offer i u =>
    show Reshaped _ c (if c.channels.IsFed i then _ else c : Collector)
    split <;> exact .kept rfl rfl rfl
  | supply | cut | read | wait => exact .kept rfl rfl rfl

theorem Reshaped.loops {d : Collector} (h : Reshaped a c d) {l : PollLoop} (hl : l ∈ d.loops) :
    (∃ k ∈ c.loops,k.generation = l.generation ∧ k.channel = l.channel ∧ k.name = l.name) ∨
      ∃ i < c.channels.next,l = c.freshLoop (c.channels.name i) i ∧
        a.happens c = [.started c.nextGeneration i] := by
  have hmap : ∀ f : PollLoop → PollLoop,
      (∀ l,(f l).generation = l.generation ∧ (f l).channel = l.channel ∧ (f l).name = l.name) →
      l ∈ c.loops.map f →
      ∃ k ∈ c.loops,k.generation = l.generation ∧ k.channel = l.channel ∧ k.name = l.name := by
    intro f hf hl
    obtain ⟨k,hk,rfl⟩ := List.mem_map.mp hl
    exact ⟨k,hk,(hf k).1.symm,(hf k).2.1.symm,(hf k).2.2.symm⟩
  cases h with
  | kept he hls hn => exact .inl ⟨l,hls ▸ hl,rfl,rfl,rfl⟩
  | mapped f hf hp he hls hn => exact .inl (hmap f hf (hls ▸ hl))
  | started i hi hs hc he hls hn =>
    rcases List.mem_append.mp (hls ▸ hl) with hl | hl
    · exact .inl ⟨l,hl,rfl,rfl,rfl⟩
    · exact .inr ⟨i,hi,List.mem_singleton.mp hl,hs⟩
  | cancelled n g hs hg he hls hn => exact .inl (hmap _ (setPhase_fields g _ _) (hls ▸ hl))
  | cancelledAll hs hd =>
    subst hd
    refine .inl (hmap _ ?_ hl)
    intro l
    split <;> exact ⟨rfl,rfl,rfl⟩
  | forgotten k g hg hp he hls hn => exact .inl ⟨l,List.mem_of_mem_filter (hls ▸ hl),rfl,rfl,rfl⟩
  | released k g hs hg hp hn he hls hn' => exact .inl ⟨l,List.mem_of_mem_filter (hls ▸ hl),rfl,rfl,rfl⟩

end Metering

end HostMeter
