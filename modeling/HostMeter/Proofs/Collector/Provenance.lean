import HostMeter.Proofs.Collector.Changes
set_option autoImplicit false

/-! Every sample tells the truth about its reading: it names the container of the channel that the reading
was taken from and the rate of the collector, and it was taken by a loop that was started for that
channel, at most one for each look of the loop. -/

namespace HostMeter

open Happening

namespace Metering

variable {a : Act} {acts : List Act} {b : Metering} {c : Collector} {h : List Happening} {r : Reading}
  {g : Nat}

theorem rateMs_tick (clock : Timestamp) (g : Nat) (c : Collector) :
    (c.tick clock g).1.rateMs = c.rateMs := by
  cases c.ticked g with
  | idle hi => rw [Collector.tick_idle hi]
  | took l ch u us hl hp hc hq =>
    rw [Collector.tick_took hl hp hc hq]
    unfold Collector.emit
    split <;> rfl
  | waited l ch hl hp hc hq hf =>
    rw [Collector.tick_waited hl hp hc hq hf]
    rfl
  | left l hl hp hq hf =>
    rw [Collector.tick_left hl hp hq hf]
    rfl

theorem rateMs_act (a : Act) (c : Collector) : (a.act c).1.rateMs = c.rateMs := by
  cases a with
  | offer i u =>
    show (if c.channels.IsFed i then _ else c : Collector).rateMs = _
    split <;> rfl
  | collect i =>
    show (if i < c.channels.next then (c.collect i).2 else (c,[])).1.rateMs = _
    split
    · cases hc : c.isCollecting (c.channels.name i) with
      | true => rw [Collector.collect_refused hc]
      | false => rw [Collector.collect_started hc]
    · rfl
  | cancel n =>
    show (c.cancel n).2.1.rateMs = _
    cases hn : c.entries.get? n with
    | none => rw [Collector.cancel_none hn]
    | some g => rw [Collector.cancel_some hn]
  | finish g =>
    show (c.finish g).2.rateMs = _
    rcases c.finish_cases g with hd | ⟨l,-,-,hd⟩ <;> rw [hd]
    rfl
  | tick clock g => exact rateMs_tick clock g c
  | release g =>
    show (c.release g).1.rateMs = _
    rcases c.release_cases g with hd | ⟨l,-,-,⟨-,hd⟩ | ⟨-,hd⟩⟩ <;> rw [hd]
    rfl
  | supply | cut | read | wait | cancelAll | observe => rfl

theorem rateMs_run (acts : List Act) (b : Metering) :
    (run acts b).collector.rateMs = b.collector.rateMs := by
  induction acts generalizing b with
  | nil => rfl
  | cons a acts ih => exact (ih (b.step a)).trans (rateMs_act a b.collector)

theorem reading?_eq_some {clock : Timestamp} (h : c.reading? clock g = some r) :
    ∃ l ch u us,c.loop? g = some l ∧ l.phase = .polling ∧ c.channels.get? l.channel = some ch ∧
      ch.feed.queued = u :: us ∧ r = ⟨l.channel,g,c.sample clock ch.container u,
          decide (c.stream.queued.length < c.stream.places)⟩ := by
  cases c.ticked g with
  | idle hi =>
    rw [Collector.reading?_idle hi] at h
    cases h
  | took l ch u us hl hp hc hq =>
    rw [Collector.reading?_took hl hp hc hq] at h
    exact ⟨l,ch,u,us,hl,hp,hc,hq,(Option.some.inj h).symm⟩
  | waited l ch hl hp hc hq hf =>
    rw [Collector.reading?_nothing hl ((UsageChannels.queuedAt_eq hc).trans hq)] at h
    cases h
  | left l hl hp hq hf =>
    rw [Collector.reading?_nothing hl hq] at h
    cases h

theorem readings_tick (clock : Timestamp) (g : Nat) (c : Collector) :
    readings ((Act.tick clock g).happens c) = (c.reading? clock g).toList := by
  cases hr : c.reading? clock g <;> simp [Act.happens,hr,readings]

theorem readings_happens (ha : ∀ clock g,a ≠ .tick clock g) : readings (a.happens c) = [] := by
  cases a with
  | tick clock g => exact absurd rfl (ha clock g)
  | offer i u =>
    simp only [Act.happens]
    split <;> rfl
  | collect i =>
    simp only [Act.happens]
    split <;> rfl
  | read =>
    simp only [Act.happens]
    split <;> rfl
  | supply | cut | wait | cancel | cancelAll | observe | finish | release => rfl

theorem mem_readings_happens (hr : r ∈ readings (a.happens c)) :
    ∃ clock g,a = .tick clock g ∧ c.reading? clock g = some r := by
  by_cases ha : ∀ clock g,a ≠ .tick clock g
  · rw [readings_happens ha] at hr
    cases hr
  · obtain ⟨clock,g,rfl⟩ : ∃ clock g,a = .tick clock g := by simpa using ha
    rw [readings_tick,Option.mem_toList] at hr
    exact ⟨clock,g,rfl,hr⟩

/-- What happened up to a state agrees with what is known about channels and loops there. -/
structure Traced (h : List Happening) (c : Collector) : Prop where
  container : ∀ r ∈ readings h,
    (c.channels.get? r.channel).map (·.container) = some r.sample.container
  frame : ∀ r ∈ readings h,r.sample.frameMs = c.rateWord
  started : ∀ r ∈ readings h,.started r.loop r.channel ∈ h
  loops : ∀ l ∈ c.loops,.started l.generation l.channel ∈ h

theorem traced_ofSettings (rateMs places : Nat) : Traced [] (.ofSettings rateMs places) where
  container _ hr := by cases hr
  frame _ hr := by cases hr
  started _ hr := by cases hr
  loops _ hl := by cases hl

theorem Traced.act (ht : Traced h c) (a : Act) : Traced (h++a.happens c) (a.act c).1 where
  container r hr := by
    apply (rechanneled_act a c).container
    rcases List.mem_append.mp (readings_append ▸ hr) with hr | hr
    · exact ht.container r hr
    · obtain ⟨clock,g,-,hrd⟩ := mem_readings_happens hr
      obtain ⟨l,ch,u,us,-,-,hc,-,rfl⟩ := reading?_eq_some hrd
      exact congrArg (Option.map (·.container)) hc
  frame r hr := by
    rw [Collector.rateWord,rateMs_act]
    rcases List.mem_append.mp (readings_append ▸ hr) with hr | hr
    · exact ht.frame r hr
    · obtain ⟨clock,g,-,hrd⟩ := mem_readings_happens hr
      obtain ⟨l,ch,u,us,-,-,-,-,rfl⟩ := reading?_eq_some hrd
      rfl
  started r hr := by
    rcases List.mem_append.mp (readings_append ▸ hr) with hr | hr
    · exact List.mem_append_left _ (ht.started r hr)
    · obtain ⟨clock,g,-,hrd⟩ := mem_readings_happens hr
      obtain ⟨l,ch,u,us,hl,-,-,-,rfl⟩ := reading?_eq_some hrd
      have hs := ht.loops l (List.mem_of_find?_eq_some hl)
      rw [Collector.generation_of_loop? hl] at hs
      exact List.mem_append_left _ hs
  loops l hl := by
    rcases (reshaped_act a c).loops hl with ⟨k,hk,hg,hc,-⟩ | ⟨i,-,rfl,hs⟩
    · rw [← hg,← hc]
      exact List.mem_append_left _ (ht.loops k hk)
    · rw [hs]
      exact List.mem_append_right _ List.mem_cons_self

theorem traced_run (ht : Traced h b.collector) (acts : List Act) :
    Traced (h++history acts b) (run acts b).collector := by
  induction acts generalizing h b with
  | nil =>
    rw [history,List.append_nil]
    exact ht
  | cons a acts ih =>
    rw [history,← List.append_assoc]
    exact ih (b := b.step a) (ht.act a)

theorem readings_le_ticks (g : Nat) (acts : List Act) (b : Metering) :
    (readings (history acts b)).countP (·.loop = g) ≤ acts.countP (·.isTick g) := by
  induction acts generalizing b with
  | nil => exact Nat.le_refl 0
  | cons a acts ih =>
    have hi := ih (b.step a)
    have ha : (readings (a.happens b.collector)).countP (·.loop = g) ≤
        if a.isTick g then 1 else 0 := by
      by_cases hn : ∀ clock g,a ≠ .tick clock g
      · rw [readings_happens hn]
        exact Nat.zero_le _
      · obtain ⟨clock,g',rfl⟩ : ∃ clock g,a = .tick clock g := by simpa using hn
        rw [readings_tick]
        cases hrd : b.collector.reading? clock g' with
        | none => exact Nat.zero_le _
        | some r =>
          obtain ⟨l,ch,u,us,-,-,-,-,rfl⟩ := reading?_eq_some hrd
          by_cases hg : g' = g <;> simp [hg,Act.isTick]
    rw [history,readings_append,List.countP_append,List.countP_cons,Nat.add_comm]
    exact Nat.add_le_add hi ha

end Metering

end HostMeter
