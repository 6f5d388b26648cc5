import HostMeter.Proofs.Collector.Provenance
set_option autoImplicit false

/-! A channel that its producer has left is emptied look by look by the loop that polls it, unless somebody
stops the loop; the loop finds it disconnected at the next look and gives up its entry. -/

namespace HostMeter

open Happening

namespace Metering

variable {a : Act} {acts : List Act} {b : Metering} {c d : Collector} {i : ChannelId} {n : String}
  {g : Nat} {us : List Usage} {p : Phase}

/-- A loop that polls has the entry under its name, which is the name of its channel, and no entry is
another loop's. -/
structure Ordered (c : Collector) : Prop where
  fresh : ∀ l ∈ c.loops,l.generation < c.nextGeneration
  entered : ∀ n g,c.entries.get? n = some g → g < c.nextGeneration
  tied : ∀ l ∈ c.loops,l.phase = .polling → c.entries.get? l.name = some l.generation
  owned : ∀ n g,c.entries.get? n = some g → ∀ l ∈ c.loops,l.generation = g → l.name = n
  named : ∀ l ∈ c.loops,l.channel < c.channels.next ∧ l.name = c.channels.name l.channel

theorem ordered_ofSettings (rateMs places : Nat) : Ordered (.ofSettings rateMs places) where
  fresh _ hl := by cases hl
  entered n g hn := by simp [Collector.ofSettings] at hn
  tied _ hl := by cases hl
  owned _ _ _ _ hl := by cases hl
  named _ hl := by cases hl

theorem Ordered.named_act (ho : Ordered c) (a : Act) :
    ∀ l ∈ (a.act c).1.loops,
      l.channel < (a.act c).1.channels.next ∧ l.name = (a.act c).1.channels.name l.channel := by
  intro l hl
  have hch := rechanneled_act a c
  rcases (reshaped_act a c).loops hl with ⟨k,hk,-,hc,hn⟩ | ⟨i,hi,rfl,-⟩
  · obtain ⟨hlt,hname⟩ := ho.named k hk
    rw [← hc,← hn]
    exact ⟨Nat.lt_of_lt_of_le hlt hch.next_le,hname.trans (hch.name hlt).symm⟩
  · exact ⟨Nat.lt_of_lt_of_le hi hch.next_le,(hch.name hi).symm⟩

abbrev Named (c : Collector) : Prop :=
  ∀ l ∈ c.loops,l.channel < c.channels.next ∧ l.name = c.channels.name l.channel

theorem Ordered.shrink (ho : Ordered c) (hn : Named d)
    (hl : ∀ l ∈ d.loops,∃ k ∈ c.loops,k.generation = l.generation ∧ k.name = l.name ∧
      (l.phase = .polling → k.phase = .polling))
    (he : ∀ n g,d.entries.get? n = some g → c.entries.get? n = some g)
    (hk : ∀ l ∈ d.loops,l.phase = .polling → c.entries.get? l.name = some l.generation →
      d.entries.get? l.name = some l.generation)
    (hg : d.nextGeneration = c.nextGeneration) : Ordered d where
  fresh l hm := by
    obtain ⟨k,hk,hkg,-⟩ := hl l hm
    rw [hg,← hkg]
    exact ho.fresh k hk
  entered n g hn := by
    rw [hg]
    exact ho.entered n g (he n g hn)
  tied l hm hp := by
    obtain ⟨k,hk',hkg,hkn,hkp⟩ := hl l hm
    apply hk l hm hp
    rw [← hkn,← hkg]
    exact ho.tied k hk' (hkp hp)
  owned n g hn l hm hlg := by
    obtain ⟨k,hk,hkg,hkn,-⟩ := hl l hm
    rw [← hkn]
    exact ho.owned n g (he n g hn) k hk (hkg.trans hlg)
  named := hn

theorem Ordered.start (ho : Ordered c) (hn : Named d) (hc : c.isCollecting (c.channels.name i) = false)
    (he : d.entries = c.entries.insert (c.channels.name i) c.nextGeneration)
    (hl : d.loops = c.loops++[c.freshLoop (c.channels.name i) i])
    (hg : d.nextGeneration = c.nextGeneration+1) : Ordered d where
  fresh l hm := by
    rw [hl] at hm
    rw [hg]
    rcases List.mem_append.mp hm with hm | hm
    · exact Nat.lt_succ_of_lt (ho.fresh l hm)
    · rw [List.mem_singleton.mp hm]
      exact Nat.lt_succ_self _
  entered n g hn := by
    rw [he,Table.get?_insert] at hn
    rw [hg]
    split at hn
    · cases hn
      exact Nat.lt_succ_self _
    · exact Nat.lt_succ_of_lt (ho.entered n g hn)
  tied l hm hp := by
    rw [hl] at hm
    rw [he,Table.get?_insert]
    rcases List.mem_append.mp hm with hm | hm
    · have ht := ho.tied l hm hp
      have hne : l.name ≠ c.channels.name i := by
        intro hname
        rw [Collector.isCollecting_eq,← hname,ht] at hc
        cases hc
      rw [if_neg hne]
      exact ht
    · rw [List.mem_singleton.mp hm]
      exact if_pos rfl
  owned n g hn l hm hlg := by
    rw [he,Table.get?_insert] at hn
    rw [hl] at hm
    rcases List.mem_append.mp hm with hm | hm
    · split at hn
      · cases hn
        exact absurd hlg (Nat.ne_of_lt (ho.fresh l hm))
      · exact ho.owned n g hn l hm hlg
    · rw [List.mem_singleton.mp hm] at hlg ⊢
      split at hn
      · rename_i hname
        exact hname.symm
      · exact absurd hlg.symm (Nat.ne_of_lt (ho.entered n g hn))
  named := hn

theorem Ordered.shrink_loops (ho : Ordered c) (hn : Named d)
    (hl : ∀ l ∈ d.loops,∃ k ∈ c.loops,k.generation = l.generation ∧ k.name = l.name ∧
      (l.phase = .polling → k.phase = .polling))
    (he : d.entries = c.entries) (hg : d.nextGeneration = c.nextGeneration) : Ordered d := by
  refine ho.shrink hn hl ?_ ?_ hg
  · rw [he]
    exact fun _ _ => id
  · rw [he]
    exact fun _ _ _ => id

theorem Ordered.shrink_entry (ho : Ordered c) (hn : Named d)
    (hl : ∀ l ∈ d.loops,∃ k ∈ c.loops,k.generation = l.generation ∧ k.name = l.name ∧
      (l.phase = .polling → k.phase = .polling))
    (hm : c.entries.get? n = some g) (he : d.entries = c.entries.erase n)
    (hp : ∀ l ∈ d.loops,l.phase = .polling → l.generation ≠ g)
    (hg : d.nextGeneration = c.nextGeneration) : Ordered d := by
  refine ho.shrink hn hl ?_ ?_ hg
  · intro m g' hm'
    rw [he,Table.get?_erase] at hm'
    split at hm'
    · cases hm'
    · exact hm'
  · intro l hml hpol hle
    rw [he,Table.get?_erase]
    split
    · rename_i hname
      rw [hname,hm] at hle
      exact absurd (Option.some.inj hle).symm (hp l hml hpol)
    · exact hle

theorem Ordered.shrink_all (ho : Ordered c) (hn : Named c.cancelAll) : Ordered c.cancelAll := by
  refine ho.shrink hn ?_ ?_ ?_ rfl
  · intro l hm
    obtain ⟨k,hk,rfl⟩ := List.mem_map.mp hm
    refine ⟨k,hk,?_⟩
    split
    · exact ⟨rfl,rfl,fun h => by cases h⟩
    · exact ⟨rfl,rfl,id⟩
  · intro n g hn
    simp [Collector.cancelAll] at hn
  · intro l hm hp hle
    obtain ⟨k,hk,rfl⟩ := List.mem_map.mp hm
    split at hp
    · cases hp
    · rename_i hne
      rw [if_neg hne] at hle
      exact absurd ⟨hle,hp⟩ hne

theorem polling_setPhase_cancelled {k : PollLoop}
    (h : (Collector.setPhase g .polling .cancelled k).phase = .polling) :
    k.phase = .polling ∧ k.generation ≠ g := by
  unfold Collector.setPhase at h
  split at h
  · cases h
  · rename_i hne
    exact ⟨h,fun hg => hne ⟨hg,h⟩⟩

theorem Ordered.reshaped (ho : Ordered c) (h : Reshaped a c d) (hn : Named d) : Ordered d := by
  have hpart : ∀ q : PollLoop → Bool,∀ l ∈ c.loops.filter q,∃ k ∈ c.loops,k.generation = l.generation ∧
      k.name = l.name ∧ (l.phase = .polling → k.phase = .polling) :=
    fun q l hl => ⟨l,List.mem_of_mem_filter hl,rfl,rfl,id⟩
  cases h with
  | kept he hl hg => exact ho.shrink_loops hn (fun l hm => ⟨l,hl ▸ hm,rfl,rfl,id⟩) he hg
  | mapped f hf hp he hl hg =>
    refine ho.shrink_loops hn (fun l hm => ?_) he hg
    rw [hl] at hm
    obtain ⟨k,hk,rfl⟩ := List.mem_map.mp hm
    refine ⟨k,hk,(hf k).1.symm,(hf k).2.2.symm,?_⟩
    intro hpol
    rcases hp k with h | ⟨-,h⟩ | ⟨-,-,h⟩ | ⟨-,-,h⟩ <;> rw [h] at hpol
    · exact hpol
    all_goals cases hpol
  | started i hi hs hc he hl hg => exact ho.start hn hc he hl hg
  | cancelled m g hs hm he hl hg =>
    refine ho.shrink_entry hn (fun l hml => ?_) hm he (fun l hml hp => ?_) hg
    · rw [hl] at hml
      obtain ⟨k,hk,rfl⟩ := List.mem_map.mp hml
      obtain ⟨h₁,-,h₃⟩ := setPhase_fields g .polling .cancelled k
      exact ⟨k,hk,h₁.symm,h₃.symm,fun h => (polling_setPhase_cancelled h).1⟩
    · rw [hl] at hml
      obtain ⟨k,hk,rfl⟩ := List.mem_map.mp hml
      rw [(setPhase_fields g .polling .cancelled k).1]
      exact (polling_setPhase_cancelled hp).2
  | cancelledAll hs hd =>
    subst hd
    exact ho.shrink_all hn
  | forgotten l g hl hp he hls hg =>
    refine ho.shrink_loops hn ?_ he hg
    rw [hls]
    exact hpart _
  | released l g hs hl hp hm he hls hg =>
    refine ho.shrink_entry hn ?_ hm he (fun k hk _ => ?_) hg
    · rw [hls]
      exact hpart _
    · rw [hls] at hk
      simpa using (List.mem_filter.mp hk).2

theorem Ordered.act (ho : Ordered c) (a : Act) : Ordered (a.act c).1 :=
  ho.reshaped (reshaped_act a c) (ho.named_act a)

theorem ordered_run (ho : Ordered b.collector) (acts : List Act) : Ordered (run acts b).collector := by
  induction acts generalizing b with
  | nil => exact ho
  | cons a acts ih => exact ih (b := b.step a) (ho.act a)

/-- A loop is in some phase, with a channel and the entry under its name. -/
structure Holds (p : Phase) (g : Nat) (n : String) (i : ChannelId) (c : Collector) : Prop where
  loop : ∃ l,c.loop? g = some l ∧ l.phase = p ∧ l.channel = i ∧ l.name = n
  entry : c.entries.get? n = some g

theorem loop?_filter_ne {g' : Nat} (hg : g ≠ g') (hl : d.loops = c.loops.filter (·.generation ≠ g')) :
    d.loop? g = c.loop? g := by
  rw [Collector.loop?,hl,List.find?_filter]
  congr 1
  funext l
  by_cases h : l.generation = g <;> simp [h,hg]

theorem loop?_map {f : PollLoop → PollLoop} (hf : ∀ l,(f l).generation = l.generation)
    (hl : d.loops = c.loops.map f) : d.loop? g = (c.loop? g).map f := by
  rw [Collector.loop?,hl,List.find?_map,Collector.loop?]
  congr 2
  funext l
  simp [hf]

/-- A loop stays as it is until it looks for the last time, gives up its entry, or is stopped. -/
theorem Holds.reshaped (ho : Ordered c) (h : Holds p g n i c) (hd : Reshaped a c d)
    (hp : p = .polling ∨ p = .leaving) (hs : a.isStop n = false)
    (ht : p = .polling → a.isTick g = false) (hr : p = .leaving → a.isRelease g = false) :
    Holds p g n i d := by
  obtain ⟨⟨l,hl,hlp,hli,hln⟩,he⟩ := h
  have hlg : l.generation = g := Collector.generation_of_loop? hl
  cases hd with
  | kept he' hl' hn =>
    refine ⟨⟨l,?_,hlp,hli,hln⟩,he' ▸ he⟩
    rw [Collector.loop?,hl']
    exact hl
  | mapped f hf hph he' hl' hn =>
    refine ⟨⟨f l,?_,?_,(hf l).2.1.trans hli,(hf l).2.2.trans hln⟩,he' ▸ he⟩
    · rw [loop?_map (fun l => (hf l).1) hl',hl]
      rfl
    · rcases hph l with h | ⟨hc,-⟩ | ⟨ha,hpol,-⟩ | ⟨ha,hlea,-⟩
      · exact h.trans hlp
      · rw [← hlp,hc] at hp
        rcases hp with hp | hp <;> cases hp
      · rw [hlg,ht (hlp.symm.trans hpol)] at ha
        cases ha
      · rw [hlg,hr (hlp.symm.trans hlea)] at ha
        cases ha
  | started j hj hst hc he' hl' hn =>
    refine ⟨⟨l,?_,hlp,hli,hln⟩,?_⟩
    · have hf : c.loops.find? (·.generation = g) = some l := hl
      rw [Collector.loop?,hl',List.find?_append,hf]
      rfl
    · rw [he',Table.get?_insert]
      split
      · rename_i hname
        rw [Collector.isCollecting_eq,← hname,he] at hc
        cases hc
      · exact he
  | cancelled m g' hst hm he' hl' hn =>
    have hne : n ≠ m := by
      rintro rfl
      rw [hs] at hst
      cases hst
    -- The entry of another name is another loop's.
    have hg : l.generation ≠ g' := by
      intro hg
      have hname := ho.owned m g' hm l (List.mem_of_find?_eq_some hl) hg
      exact hne (hln.symm.trans hname)
    refine ⟨⟨l,?_,hlp,hli,hln⟩,?_⟩
    · rw [loop?_map (fun l => (setPhase_fields g' _ _ l).1) hl',hl]
      exact congrArg some (Collector.setPhase_of_ne hg)
    · rw [he',Table.get?_erase,if_neg hne]
      exact he
  | cancelledAll hst hd =>
    have := hst n
    rw [hs] at this
    cases this
  | forgotten k g' hk hkp he' hl' hn =>
    have hg : g ≠ g' := by
      rintro rfl
      rw [hl] at hk
      cases hk
      rw [hlp] at hkp
      rcases hp with rfl | rfl <;> rcases hkp with h | h <;> cases h
    refine ⟨⟨l,?_,hlp,hli,hln⟩,he' ▸ he⟩
    rw [loop?_filter_ne hg hl']
    exact hl
  | released k g' hst hk hkp hke he' hl' hn =>
    have hg : g ≠ g' := by
      rintro rfl
      rw [hl] at hk
      cases hk
      rw [hr (hlp.symm.trans hkp)] at hst
      cases hst
    refine ⟨⟨l,?_,hlp,hli,hln⟩,?_⟩
    · rw [loop?_filter_ne hg hl']
      exact hl
    · rw [he',Table.get?_erase]
      split
      · rename_i hname
        rw [← hname,he] at hke
        exact absurd (Option.some.inj hke) hg
      · exact he

theorem takenFrom_other (ho : Ordered c) (h : Holds .polling g n i c) (ht : a.isTick g = false) :
    takenFrom i (a.happens c) = [] := by
  have hnone : (readings (a.happens c)).filter (·.channel = i) = [] := by
    apply List.filter_eq_nil_iff.mpr
    intro r hr hi
    have hi : r.channel = i := by simpa using hi
    obtain ⟨clock,g',rfl,hrd⟩ := mem_readings_happens hr
    obtain ⟨k,ch,u,us,hk,hkp,-,-,rfl⟩ := reading?_eq_some hrd
    obtain ⟨⟨l,hl,hlp,hli,hln⟩,he⟩ := h
    -- Another loop on the channel would have the same name, and the entry would be its own.
    have hname : k.name = n := by
      rw [(ho.named k (List.mem_of_find?_eq_some hk)).2,← hln,
        (ho.named l (List.mem_of_find?_eq_some hl)).2]
      exact congrArg c.channels.name (hi.trans hli.symm)
    have hke := ho.tied k (List.mem_of_find?_eq_some hk) hkp
    rw [hname,he,Collector.generation_of_loop? hk] at hke
    simp [Act.isTick,Option.some.inj hke] at ht
  rw [takenFrom,hnone,List.map_nil]

theorem sentTo_cut (hf : ¬c.channels.IsFed i) : sentTo i (a.happens c) = [] := by
  cases a with
  | offer j u =>
    simp only [Act.happens]
    by_cases hj : j = i
    · rw [hj,if_neg (fun h => hf h.1)]
      rfl
    · split <;> simp [sentTo,hj]
  | collect j =>
    simp only [Act.happens]
    split <;> rfl
  | read =>
    simp only [Act.happens]
    split <;> rfl
  | tick clock g =>
    cases hr : c.reading? clock g <;> simp [Act.happens,hr,sentTo]
  | supply | cut | wait | cancel | cancelAll | observe | finish | release => rfl

/-- A loop polls a channel that has some readings left and no producer. -/
structure Draining (g : Nat) (n : String) (i : ChannelId) (us : List Usage) (b : Metering) : Prop where
  ordered : Ordered b.collector
  alive : b.collector.stream.read = true
  holds : Holds .polling g n i b.collector
  cut : ¬b.collector.channels.IsFed i
  queued : b.collector.channels.queuedAt i = us

namespace Draining

variable {clock : Timestamp} {u : Usage}

theorem channel_lt (h : Draining g n i us b) : i < b.collector.channels.next := by
  obtain ⟨l,hl,-,rfl,-⟩ := h.holds.loop
  exact (h.ordered.named l (List.mem_of_find?_eq_some hl)).1

theorem queued_step (h : Draining g n i us b) (a : Act) :
    us = takenFrom i (a.happens b.collector)++(b.step a).collector.channels.queuedAt i := by
  have hc := (accounted_step h.alive a).channels i
  rw [sentTo_cut h.cut,List.append_nil,h.queued] at hc
  exact hc

theorem next (h : Draining g n i us b) (a : Act) {vs : List Usage}
    (hh : Holds .polling g n i (b.step a).collector)
    (hq : (b.step a).collector.channels.queuedAt i = vs) : Draining g n i vs (b.step a) where
  ordered := h.ordered.act a
  alive := (accounted_step h.alive a).alive.trans h.alive
  holds := hh
  cut := (rechanneled_act a b.collector).not_isFed h.channel_lt h.cut
  queued := hq

theorem step_other (h : Draining g n i us b) (hs : a.isStop n = false) (ht : a.isTick g = false) :
    Draining g n i us (b.step a) ∧ takenFrom i (a.happens b.collector) = [] := by
  have hn := takenFrom_other h.ordered h.holds ht
  have hq := h.queued_step a
  rw [hn,List.nil_append] at hq
  have hh := h.holds.reshaped h.ordered (reshaped_act a b.collector) (.inl rfl) hs (fun _ => ht)
    (fun hp => by cases hp)
  exact ⟨h.next a hh hq.symm,hn⟩

theorem holds_took (h : Draining g n i us b) {l : PollLoop} {ch : UsageChannel} {vs : List Usage}
    (hl : b.collector.loop? g = some l) (hp : l.phase = .polling)
    (hc : b.collector.channels.get? l.channel = some ch) (hq : ch.feed.queued = u :: vs) :
    Holds .polling g n i (b.step (.tick clock g)).collector := by
  obtain ⟨k,hk,hkp,hki,hkn⟩ := h.holds.loop
  have hf := Collector.reschedule_fields g b.collector.rateMs k
  have hch := Collector.reschedule_channel g b.collector.rateMs k
  show Holds _ _ _ _ (b.collector.tick clock g).1
  rw [Collector.tick_took hl hp hc hq]
  obtain ⟨he,hls,-,-⟩ := Collector.emit_fields clock ch.container u (b.collector.drawn g l.channel)
  refine ⟨⟨Collector.reschedule g b.collector.rateMs k,?_,hf.2.2.trans hkp,hch.trans hki,
    hf.2.1.trans hkn⟩,(congrArg (Table.get? · n) he).trans h.holds.entry⟩
  rw [loop?_map (fun l => (Collector.reschedule_fields g b.collector.rateMs l).1) hls,hk]
  rfl

theorem step_tick (h : Draining g n i (u :: us) b) (clock : Timestamp) :
    Draining g n i us (b.step (.tick clock g)) ∧
      takenFrom i ((Act.tick clock g).happens b.collector) = [u] := by
  obtain ⟨l,hl,hp,hi,-⟩ := h.holds.loop
  have hqueued := h.queued
  rw [← hi] at hqueued
  cases b.collector.ticked g with
  | idle hidle => exact absurd hp (hidle l hl)
  | took k ch v vs hk hkp hc hq =>
    rw [hl] at hk
    cases hk
    rw [UsageChannels.queuedAt_eq hc,hq] at hqueued
    cases hqueued
    have ht : takenFrom i ((Act.tick clock g).happens b.collector) = [u] := by
      rw [takenFrom,readings_tick,Collector.reading?_took hl hp hc hq]
      simp [hi,Collector.sample]
    have hs := h.queued_step (.tick clock g)
    rw [ht] at hs
    exact ⟨h.next _ (h.holds_took hl hp hc hq) (List.cons.inj hs).2.symm,ht⟩
  | waited k ch hk hkp hc hq hf =>
    rw [hl] at hk
    cases hk
    rw [UsageChannels.queuedAt_eq hc,hq] at hqueued
    cases hqueued
  | left k hk hkp hq hf =>
    rw [hl] at hk
    cases hk
    rw [hq] at hqueued
    cases hqueued

theorem step_last (h : Draining g n i [] b) (clock : Timestamp) :
    Holds .leaving g n i (b.step (.tick clock g)).collector ∧
      takenFrom i ((Act.tick clock g).happens b.collector) = [] := by
  obtain ⟨l,hl,hp,hi,hn⟩ := h.holds.loop
  have hqueued := h.queued
  have hcut := h.cut
  rw [← hi] at hqueued hcut
  cases b.collector.ticked g with
  | idle hidle => exact absurd hp (hidle l hl)
  | took k ch v vs hk hkp hc hq =>
    rw [hl] at hk
    cases hk
    rw [UsageChannels.queuedAt_eq hc,hq] at hqueued
    cases hqueued
  | waited k ch hk hkp hc hq hf =>
    rw [hl] at hk
    cases hk
    exact absurd ⟨ch,hc,hf⟩ hcut
  | left k hk hkp hq hf =>
    have hr : b.collector.reading? clock g = none := Collector.reading?_nothing hl hqueued
    refine ⟨?_,by rw [takenFrom,readings_tick,hr]; rfl⟩
    show Holds _ _ _ _ (b.collector.tick clock g).1
    rw [Collector.tick_left hl hp hqueued hcut]
    have hlg := Collector.generation_of_loop? hl
    have hf := Collector.reschedule_fields g b.collector.rateMs l
    have hch := Collector.reschedule_channel g b.collector.rateMs l
    refine ⟨⟨{ Collector.reschedule g b.collector.rateMs l with phase := .leaving },?_,rfl,
      hch.trans hi,hf.2.1.trans hn⟩,h.holds.entry⟩
    rw [loop?_map (fun l => (setPhase_fields g .polling .leaving l).1) rfl,
      loop?_map (fun l => (Collector.reschedule_fields g b.collector.rateMs l).1) rfl,hl]
    simp [Collector.setPhase,hf,hlg,hp]

/-- Look by look, the readings that are left are taken from the first to the last. -/
theorem run_drained (h : Draining g n i us b) (hs : ∀ a ∈ acts,a.isStop n = false)
    (hk : acts.countP (·.isTick g) ≤ us.length) :
    Draining g n i (us.drop (acts.countP (·.isTick g))) (run acts b) ∧
      takenFrom i (history acts b) = us.take (acts.countP (·.isTick g)) := by
  induction acts generalizing b us with
  | nil => exact ⟨h,rfl⟩
  | cons a acts ih =>
    have hs' : ∀ a ∈ acts,a.isStop n = false := fun a ha => hs a (List.mem_cons_of_mem _ ha)
    rw [history,takenFrom_append,run_cons]
    cases ht : a.isTick g with
    | false =>
      have hc : (a :: acts).countP (·.isTick g) = acts.countP (·.isTick g) :=
        List.countP_cons_of_neg (by simp [ht])
      rw [hc] at hk ⊢
      obtain ⟨hd,hn⟩ := h.step_other (hs a List.mem_cons_self) ht
      obtain ⟨hd,hn'⟩ := ih hd hs' hk
      exact ⟨hd,by rw [hn,hn',List.nil_append]⟩
    | true =>
      have hc : (a :: acts).countP (·.isTick g) = acts.countP (·.isTick g)+1 :=
        List.countP_cons_of_pos ht
      rw [hc] at hk ⊢
      obtain ⟨clock,rfl⟩ : ∃ clock,a = .tick clock g := by
        cases a with
        | tick clock g' =>
          have hg : g' = g := by simpa [Act.isTick] using ht
          exact ⟨clock,hg ▸ rfl⟩
        | _ => cases ht
      cases us with
      | nil => simp at hk
      | cons u us =>
        obtain ⟨hd,hn⟩ := h.step_tick clock
        obtain ⟨hd,hn'⟩ := ih hd hs' (Nat.le_of_succ_le_succ hk)
        exact ⟨hd,by rw [hn,hn']; rfl⟩

end Draining

theorem holds_leaving_run (ho : Ordered b.collector) (h : Holds .leaving g n i b.collector)
    (hs : ∀ a ∈ acts,a.isStop n = false ∧ a.isRelease g = false) :
    Holds .leaving g n i (run acts b).collector := by
  induction acts generalizing b with
  | nil => exact h
  | cons a acts ih =>
    obtain ⟨hst,hr⟩ := hs a List.mem_cons_self
    have hh := h.reshaped ho (reshaped_act a b.collector) (.inr rfl) hst (fun hp => by cases hp)
      (fun _ => hr)
    exact ih (b := b.step a) (ho.act a) hh fun a ha => hs a (List.mem_cons_of_mem _ ha)

theorem release_leaving (h : Holds .leaving g n i c) : (c.release g).1.isCollecting n = false := by
  obtain ⟨⟨l,hl,hp,-,rfl⟩,he⟩ := h
  have hr : (c.release g).1.entries = c.entries.erase l.name := by
    simp only [Collector.release,hl,hp,he,if_true]
  rw [Collector.isCollecting_eq,hr,Table.get?_erase,if_pos rfl]
  rfl

/-- The look after the last reading ends the sampling of the name, whatever goes on between the look and
the loop's giving up its entry, unless that stops the name. -/
theorem Draining.ends (h : Draining g n i us b) {later after : List Act}
    (hs : ∀ a ∈ later,a.isStop n = false) (hk : later.countP (·.isTick g) = us.length) (clock : Timestamp)
    (ha : ∀ a ∈ after,a.isStop n = false ∧ a.isRelease g = false) :
    (run (later++.tick clock g :: (after++[.release g])) b).collector.isCollecting n = false := by
  have hd := (h.run_drained hs (Nat.le_of_eq hk)).1
  rw [hk,List.drop_length] at hd
  have hl := holds_leaving_run (hd.ordered.act (.tick clock g)) (hd.step_last clock).1 ha
  rw [run_append,run_cons,run_append]
  exact release_leaving hl

/-- However senders, readers, callers and loops come in between each other, what has been taken from a
channel is what was sent to it first, and the rest waits there in order; each look of a loop takes one
reading at most, for a loop that was started for the channel; each reading is one sample with the
container of its channel and the rate in effect, which has come onto the stream behind the earlier ones or
was dropped, and is counted as what it is. When the producer of a channel has gone, the loop that polls
it takes what is left with as many looks, and one look later its sampling ends. -/
theorem usage_conserved (rateMs places : Nat) (m : Metrics) (acts : List Act) :
    let b := ofSettings rateMs places m
    let h := history acts b
    let d := run acts b
    (∀ i,sentTo i h = takenFrom i h++d.collector.channels.queuedAt i) ∧
    (∀ g,(readings h).countP (·.loop = g) ≤ acts.countP (·.isTick g)) ∧
    (∀ r ∈ readings h,.started r.loop r.channel ∈ h ∧
      (d.collector.channels.get? r.channel).map (·.container) = some r.sample.container ∧
      r.sample.frameMs = .ofNat (max rateMs 1)) ∧
    kept h = readOff h++d.collector.stream.queued ∧
    d.metrics.samplesEmitted = m.samplesEmitted+(readings h).countP (·.kept) ∧
    d.metrics.samplesDropped = m.samplesDropped+(readings h).countP (!·.kept) ∧
    ∀ l g,d.collector.loop? g = some l → l.phase = .polling → ¬d.collector.channels.IsFed l.channel →
      ∀ later,(∀ a ∈ later,a.isStop l.name = false) →
        let us := d.collector.channels.queuedAt l.channel
        let k := later.countP (·.isTick g)
        (k ≤ us.length → takenFrom l.channel (history later d) = us.take k ∧
          (run later d).collector.isCollecting l.name = true) ∧
        (k = us.length → ∀ clock after,
          (∀ a ∈ after,a.isStop l.name = false ∧ a.isRelease g = false) →
          (run (later++.tick clock g :: (after++[.release g])) d).collector.isCollecting l.name =
            false) := by
  intro b h d
  have hr : b.collector.stream.read = true := rfl
  have ha : Accounted h b d := accounted_run hr acts
  have ht : Traced h d.collector := traced_run (b := b) (traced_ofSettings rateMs places) acts
  have ho : Ordered d.collector := ordered_run (b := b) (ordered_ofSettings rateMs places) acts
  have hrate : d.collector.rateWord = .ofNat (max rateMs 1) := congrArg UInt64.ofNat (rateMs_run acts b)
  refine ⟨?_,fun g => readings_le_ticks g acts b,?_,ha.stream,ha.emitted,ha.dropped,?_⟩
  · intro i
    exact ha.channels i
  · intro r hr
    exact ⟨ht.started r hr,ht.container r hr,(ht.frame r hr).trans hrate⟩
  · intro l g hl hp hcut later hs us k
    have hlm := List.mem_of_find?_eq_some hl
    have he := ho.tied l hlm hp
    rw [Collector.generation_of_loop? hl] at he
    have hd : Draining g l.name l.channel us d :=
      ⟨ho,ha.alive.trans hr,⟨⟨l,hl,hp,rfl,rfl⟩,he⟩,hcut,rfl⟩
    refine ⟨?_,?_⟩
    · intro hk
      obtain ⟨hd',ht⟩ := hd.run_drained hs hk
      refine ⟨ht,?_⟩
      rw [Collector.isCollecting_eq,hd'.holds.entry]
      rfl
    · intro hk clock after ha
      exact hd.ends hs hk clock ha

def abandoned : List Act :=
  [.supply { name := "web" } 4,.offer 0 { memory := some ⟨1⟩ },.offer 0 { memory := some ⟨2⟩ },
    .collect 0,.tick 7 0,.cut 0]

/-- With a place for one sample the second is dropped, and the third look is the last. -/
theorem usage_conserved_abandoned :
    let b := ofSettings 100 1 {}
    let d := run abandoned b
    sentTo 0 (history abandoned b) =
        takenFrom 0 (history abandoned b)++d.collector.channels.queuedAt 0 ∧
      takenFrom 0 (history [.tick 8 0] d) = [{ memory := some ⟨2⟩ }] ∧
      (run [.tick 8 0,.tick 9 0,.release 0] d).collector.isCollecting "web" = false := by
  obtain ⟨hsent,-,-,-,-,-,hleft⟩ := usage_conserved 100 1 {} abandoned
  have hl := hleft ⟨"web",0,0,200,.polling⟩ 0 (by decide) rfl (by decide)
  obtain ⟨htaken,-⟩ := hl [.tick 8 0] (by decide)
  obtain ⟨-,hends⟩ := hl [.tick 8 0] (by decide)
  exact ⟨hsent 0,(htaken (by decide)).1,hends (by decide) 9 [] (by simp)⟩

end Metering

end HostMeter
