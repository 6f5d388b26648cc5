import HostMeter.Proofs.Collector.Landmarks
import HostMeter.Proofs.Collector.Provenance
import HostMeter.Proofs.Collector.Quit
set_option autoImplicit false

/-! A stop is final and gives back the rest. Whatever has been done to a collector before, a name without
an entry cannot be stopped; else the entry goes with its loop and nothing else changes, the channel that
was once handed over for it comes back with all that nobody has taken from it, and the loop never takes
a reading again. -/

namespace HostMeter

open Happening

namespace Metering

namespace Deed

def happens : Deed → Collector → List Happening
  | .act a,c => a.happens c
  | _,_ => []

end Deed

def chronicle : List Deed → Metering → List Happening
  | [],_ => []
  | x :: xs,b => x.happens b.collector++chronicle xs (b.perform x)

/-- Handing over a channel now starts a loop of this generation for the name. -/
def Accepts (i : ChannelId) (n : String) (g : Nat) (c : Collector) : Prop :=
  i < c.channels.next ∧ (c.collect i).1 = true ∧ c.channels.name i = n ∧ c.nextGeneration = g

variable {a : Act} {b : Metering} {c d : Collector} {h : List Landmark} {hs : List Happening} {g : Nat}
  {n : String} {i : ChannelId} {x : Deed} {xs : List Deed}

theorem landmarks_append (xs ys : List Deed) (b : Metering) :
    landmarks (xs++ys) b = landmarks xs b++landmarks ys (performAll xs b) := by
  induction xs generalizing b with
  | nil => rfl
  | cons x xs ih =>
    rw [List.cons_append,landmarks,ih,landmarks,List.append_assoc]
    rfl

theorem accounted_perform (hr : b.collector.stream.read = true) (x : Deed) :
    Accounted (x.happens b.collector) b (b.perform x) := by
  cases x with
  | act a => exact accounted_step hr a
  | withdraw =>
    exact accounted_still (fun _ => rfl) rfl (by simp [Sampleless,Deed.take]) nothing_happens
  | tell g => exact accounted_still (fun _ => rfl) rfl sampleless_nil nothing_happens

theorem accounted_performAll (hr : b.collector.stream.read = true) (xs : List Deed) :
    Accounted (chronicle xs b) b (performAll xs b) := by
  induction xs generalizing b with
  | nil => exact .refl b
  | cons x xs ih =>
    have hx := accounted_perform hr x
    exact hx.trans (ih (hx.alive.trans hr))

theorem Traced.perform (ht : Traced hs b.collector) (x : Deed) :
    Traced (hs++x.happens b.collector) (b.perform x).collector := by
  cases x with
  | act a => exact ht.act a
  | withdraw =>
    show Traced (hs++[]) _
    rw [List.append_nil]
    exact ⟨ht.container,ht.frame,ht.started,ht.loops⟩
  | tell g =>
    show Traced (hs++[]) _
    rw [List.append_nil]
    refine ⟨ht.container,ht.frame,ht.started,fun l hl => ?_⟩
    obtain ⟨k,hk,rfl⟩ := List.mem_map.mp hl
    split <;> exact ht.loops k hk

theorem traced_performAll (ht : Traced hs b.collector) (xs : List Deed) :
    Traced (hs++chronicle xs b) (performAll xs b).collector := by
  induction xs generalizing hs b with
  | nil => exact (List.append_nil hs).symm ▸ ht
  | cons x xs ih =>
    have ht := ih (b := b.perform x) (ht.perform x)
    rw [List.append_assoc] at ht
    exact ht

theorem started_happens (h : .started g i ∈ a.happens c) :
    a = .collect i ∧ Accepts i (c.channels.name i) g c := by
  cases a with
  | collect j =>
    simp only [Act.happens] at h
    split at h
    · rename_i hj
      cases List.mem_singleton.mp h
      exact ⟨rfl,hj.1,hj.2,rfl,rfl⟩
    · cases h
  | offer j u =>
    simp only [Act.happens] at h
    split at h
    · simp at h
    · cases h
  | read =>
    simp only [Act.happens] at h
    split at h
    · simp at h
    · cases h
  | tick clock g' =>
    simp only [Act.happens] at h
    cases hr : c.reading? clock g' <;> simp [hr] at h
  | supply | cut | wait | cancel | cancelAll | observe | finish | release => cases h

theorem started_chronicle (h : .started g i ∈ chronicle xs b) :
    ∃ ys zs,xs = ys++.act (.collect i) :: zs ∧
      ∃ n,Accepts i n g (performAll ys b).collector := by
  induction xs generalizing b with
  | nil => cases h
  | cons x xs ih =>
    rcases List.mem_append.mp h with h | h
    · cases x with
      | act a =>
        obtain ⟨rfl,ha⟩ := started_happens h
        exact ⟨[],xs,rfl,_,ha⟩
      | withdraw | tell => cases h
    · obtain ⟨ys,zs,rfl,n,ha⟩ := ih h
      exact ⟨x :: ys,zs,rfl,n,ha⟩

theorem landmarks_accepts (ha : Accepts i n g c) :
    .accepted n g ∈ Deed.landmarks (.act (.collect i)) c := by
  obtain ⟨hi,hc,rfl,rfl⟩ := ha
  simp [Deed.landmarks,hi,hc]

/-- No loop with an entry has been told to stop. -/
def Untold (c : Collector) : Prop :=
  ∀ n g,c.entries.get? n = some g → ∀ l ∈ c.loops,l.generation = g →
    l.phase ≠ .cancelled ∧ l.phase ≠ .ended

theorem Charted.attended (hc : Charted h c) (hu : Untold c) : c.Attended where
  fresh _ _ hn := hc.fresh _ (hc.entry_accepted hn)
  distinct := hc.distinct
  single _ _ _ hn hm := hc.name_eq hn hm
  named _ g hn l hl hg := hc.single _ _ g (hg ▸ hc.loops l hl) (hc.entry_accepted hn)
  untold := hu

theorem untold_ofSettings (rateMs places : Nat) : Untold (.ofSettings rateMs places) := by
  intro n g hn
  simp [Collector.ofSettings] at hn

theorem Untold.shrink (hu : Untold c) (he : ∀ n g,d.entries.get? n = some g → c.entries.get? n = some g)
    (hl : ∀ l ∈ d.loops,l ∈ c.loops) : Untold d :=
  fun n g hn l hm hg => hu n g (he n g hn) l (hl l hm) hg

theorem get?_of_erase {t : Table Nat} {m : String} (hn : (t.erase m).get? n = some g) :
    n ≠ m ∧ t.get? n = some g := by
  rw [Table.get?_erase] at hn
  split at hn
  · cases hn
  · rename_i hne
    exact ⟨hne,hn⟩

theorem Untold.release (hu : Untold c) (hc : Charted h c) (g : Nat) : Untold (c.release g).1 := by
  rcases c.release_cases g with hd | ⟨l,hl,hp,⟨-,hd⟩ | ⟨hno,hd⟩⟩ <;> rw [hd]
  · exact hu
  · exact hu.shrink (fun n g hn => (get?_of_erase hn).2) fun l hl => List.mem_of_mem_filter hl
  · intro n g' hn k₀ hk₀ hg
    obtain ⟨k,hk,rfl⟩ := List.mem_map.mp hk₀
    rw [Collector.setPhase_generation] at hg
    have hk' := hu n g' hn k hk hg
    by_cases hgg : k.generation = g
    · -- A loop that leaves without an entry of its own is nobody's.
      have hlg := Collector.generation_of_loop? hl
      obtain rfl := hc.eq_of_generation hk (List.mem_of_find?_eq_some hl) (hgg.trans hlg.symm)
      obtain rfl := (hc.attended hu).named n g' hn k hk hg
      exact absurd (hn.trans (congrArg some (hg.symm.trans hgg))) hno
    · rw [Collector.setPhase_of_ne hgg]
      exact hk'

theorem Untold.act (hu : Untold c) (hc : Charted h c) (a : Act) : Untold (a.act c).1 := by
  by_cases hr : ∃ g,a = .release g
  · obtain ⟨g,rfl⟩ := hr
    exact hu.release hc g
  cases reshaped_act a c with
  | kept he hl hn => exact hu.shrink (fun n g h => he ▸ h) fun l h => hl ▸ h
  | mapped f hf hp he hl hn =>
    intro n g hng l hm hg
    rw [he] at hng
    rw [hl] at hm
    obtain ⟨k,hk,rfl⟩ := List.mem_map.mp hm
    have hk' := hu n g hng k hk ((hf k).1.symm.trans hg)
    rcases hp k with h | ⟨h,-⟩ | ⟨-,-,h⟩ | ⟨h,-⟩
    · rwa [h]
    · exact absurd h hk'.1
    · simp [h]
    · cases a with
      | release g => exact absurd ⟨g,rfl⟩ hr
      | _ => cases h
  | started i hi hst hno he hl hn =>
    intro n g hng l hm hg
    rw [he,Table.get?_insert] at hng
    rw [hl] at hm
    rcases List.mem_append.mp hm with hm | hm
    · have hlt : l.generation < c.nextGeneration := hc.fresh _ (hc.loops l hm)
      split at hng
      · cases hng
        exact absurd hg (Nat.ne_of_lt hlt)
      · exact hu n g hng l hm hg
    · rw [List.mem_singleton.mp hm]
      rcases c.freshLoop_phase (c.channels.name i) i with h | h <;> simp [h]
  | cancelled m g₀ hst hg₀ he hl hn =>
    intro n g hng l hm hg
    rw [he] at hng
    obtain ⟨hne,hng⟩ := get?_of_erase hng
    rw [hl] at hm
    obtain ⟨k,hk,rfl⟩ := List.mem_map.mp hm
    rw [Collector.setPhase_generation] at hg
    have hgg : k.generation ≠ g₀ := by
      rintro rfl
      exact hne (hc.name_eq (hg ▸ hng) hg₀)
    rw [Collector.setPhase_of_ne hgg]
    exact hu n g hng k hk hg
  | cancelledAll hst hd =>
    rw [hd]
    intro n g hng
    simp [Collector.cancelAll] at hng
  | forgotten l g hg hp he hl hn =>
    exact hu.shrink (fun n g h => he ▸ h) fun l h => List.mem_of_mem_filter (hl ▸ h)
  | released l g hst hg hp hn he hl hn' =>
    exact hu.shrink (fun n g h => (get?_of_erase (he ▸ h)).2) fun l h =>
      List.mem_of_mem_filter (hl ▸ h)

theorem Untold.take (hu : Untold c) (hc : Charted h c) (x : Deed) : Untold (x.take c).1 := by
  cases x with
  | act a => exact hu.act hc a
  | withdraw =>
    intro n g hn
    simp [Deed.take,Collector.withdraw] at hn
  | tell g₀ =>
    intro n g hn l hl hg
    have hn : c.entries.get? n = some g := hn
    obtain ⟨k,hk,rfl⟩ := List.mem_map.mp hl
    split at hg
    · rename_i htold
      obtain rfl : k.name = n := (hc.attended hu).named n g hn k hk hg
      exact absurd (hn.trans (congrArg some (hg.symm.trans htold.1))) htold.2.1
    · rename_i hkept
      rw [if_neg hkept]
      exact hu n g hn k hk hg

theorem attended_performAll (hc : Charted h b.collector) (hu : Untold b.collector) (xs : List Deed) :
    (performAll xs b).collector.Attended := by
  induction xs generalizing h b with
  | nil => exact hc.attended hu
  | cons x xs ih => exact ih (b := b.perform x) (hc.take x) (hu.take hc x)

/-- A generation that has been given out, and whose loop does not poll any more. -/
def Silenced (g : Nat) (c : Collector) : Prop :=
  g < c.nextGeneration ∧ ∀ l ∈ c.loops,l.generation = g → l.phase ≠ .polling

theorem Silenced.act (h : Silenced g c) (a : Act) : Silenced g (a.act c).1 := by
  obtain ⟨hlt,hq⟩ := h
  cases reshaped_act a c with
  | kept he hl hn => exact ⟨hn.symm ▸ hlt,fun l hm => hq l (hl ▸ hm)⟩
  | mapped f hf hp he hl hn =>
    refine ⟨hn.symm ▸ hlt,fun l hm hg => ?_⟩
    rw [hl] at hm
    obtain ⟨k,hk,rfl⟩ := List.mem_map.mp hm
    rcases hp k with h | ⟨-,h⟩ | ⟨-,-,h⟩ | ⟨-,-,h⟩ <;> rw [h]
    · exact hq k hk ((hf k).1.symm.trans hg)
    all_goals simp
  | started i hi hst hno he hl hn =>
    refine ⟨hn.symm ▸ Nat.lt_succ_of_lt hlt,fun l hm hg => ?_⟩
    rw [hl] at hm
    rcases List.mem_append.mp hm with hm | hm
    · exact hq l hm hg
    · rw [List.mem_singleton.mp hm] at hg
      exact absurd hg.symm (Nat.ne_of_lt hlt)
  | cancelled m g₀ hst hg₀ he hl hn =>
    refine ⟨hn.symm ▸ hlt,fun l hm hg => ?_⟩
    rw [hl] at hm
    obtain ⟨k,hk,rfl⟩ := List.mem_map.mp hm
    rw [Collector.setPhase_generation] at hg
    unfold Collector.setPhase
    split
    · simp
    · exact hq k hk hg
  | cancelledAll hst hd =>
    rw [hd]
    refine ⟨hlt,fun l hm hg => ?_⟩
    obtain ⟨k,hk,rfl⟩ := List.mem_map.mp hm
    split at hg
    · rename_i ht
      simp [ht]
    · rename_i ht
      rw [if_neg ht]
      exact hq k hk hg
  | forgotten l g₀ hg hp he hl hn =>
    exact ⟨hn.symm ▸ hlt,fun l hm => hq l (List.mem_of_mem_filter (hl ▸ hm))⟩
  | released l g₀ hst hg hp hn he hl hn' =>
    exact ⟨hn'.symm ▸ hlt,fun l hm => hq l (List.mem_of_mem_filter (hl ▸ hm))⟩

theorem Silenced.take (h : Silenced g c) (x : Deed) : Silenced g (x.take c).1 := by
  cases x with
  | act a => exact h.act a
  | withdraw => exact h
  | tell g₀ =>
    refine ⟨h.1,fun l hm hg => ?_⟩
    obtain ⟨k,hk,rfl⟩ := List.mem_map.mp hm
    split at hg
    · rename_i ht
      simp [ht]
    · rename_i ht
      rw [if_neg ht]
      exact h.2 k hk hg

theorem Silenced.readings_ne (h : Silenced g b.collector) (xs : List Deed) :
    ∀ r ∈ readings (chronicle xs b),r.loop ≠ g := by
  induction xs generalizing b with
  | nil =>
    intro r hr
    cases hr
  | cons x xs ih =>
    intro r hr
    rw [chronicle,readings_append] at hr
    rcases List.mem_append.mp hr with hr | hr
    · cases x with
      | act a =>
        obtain ⟨clock,g',-,hrd⟩ := mem_readings_happens hr
        obtain ⟨l,ch,u,us,hl,hp,-,-,rfl⟩ := reading?_eq_some hrd
        rintro rfl
        exact h.2 l (List.mem_of_find?_eq_some hl) (Collector.generation_of_loop? hl) hp
      | withdraw | tell => cases hr
    · exact ih (b := b.perform x) (h.take x) r hr

theorem accepts_of_handback {b : Metering} (hc : Charted (landmarks xs b) (performAll xs b).collector)
    (ht : Traced (chronicle xs b) (performAll xs b).collector)
    (hn : (performAll xs b).collector.entries.get? n = some g)
    (hi : (performAll xs b).collector.handback g = some i) :
    ∃ ys zs,xs = ys++.act (.collect i) :: zs ∧ Accepts i n g (performAll ys b).collector := by
  obtain ⟨l,hl,rfl,rfl⟩ := Collector.loop_of_handback hi
  obtain ⟨ys,zs,rfl,m,ha⟩ := started_chronicle (ht.loops l hl)
  have hm : .accepted m l.generation ∈
      landmarks (ys++.act (.collect l.channel) :: zs) b := by
    rw [landmarks_append]
    exact List.mem_append_right _ (List.mem_append_left _ (landmarks_accepts ha))
  obtain rfl := hc.single m n l.generation hm (hc.entry_accepted hn)
  exact ⟨ys,zs,rfl,ha⟩

/-- What has been done to a collector from its beginning, and a name that may have an entry. A stop of
the name finds nothing exactly if there is no entry, and changes nothing then. Else the entry is gone with
its loop and all else is as it was; the answer is lost if the loop has crashed; a channel that comes back
was handed over under this name and holds, in order, all that was sent to it and never taken; and the loop
takes no reading in anything that follows. Stopping everything leaves what stopping each name leaves, in
whatever order, and brings the same channels. Where no loop is on its way out, this is how the collector
stops. -/
theorem stop_final (rateMs places : Nat) (m : Metrics) (xs : List Deed) (n : String) :
    let b := ofSettings rateMs places m
    let s := performAll xs b
    let c := s.collector
    (c.Settled → c.quit n = c.stop n ∧ c.quitAll = c.stopAll) ∧
      ((c.quit n).1 = .notFound ↔ c.entries.get? n = none) ∧
      (c.entries.get? n = none → c.quit n = (.notFound,c,[])) ∧
      (∀ g,c.entries.get? n = some g →
        (c.quit n).2.1 =
            { c with entries := c.entries.erase n, loops := c.loops.filter (·.generation ≠ g) } ∧
          ((c.quit n).1 = .lost ↔ ∀ l ∈ c.loops,l.generation = g → l.phase = .crashed) ∧
          (∀ i,(c.quit n).1 = .channel i →
            (∃ ys zs,xs = ys++.act (.collect i) :: zs ∧ Accepts i n g (performAll ys b).collector) ∧
              sentTo i (chronicle xs b) = takenFrom i (chronicle xs b)++c.channels.queuedAt i) ∧
          ∀ ys,∀ r ∈ readings (chronicle ys (s.adopt (c.quit n).2)),r.loop ≠ g) ∧
      ∀ ns : List String,ns.Perm c.entries.keys →
        (c.quitEach ns).2 = c.quitAll.2.1 ∧ (c.quitEach ns).1.Perm c.quitAll.1 := by
  intro b s c
  have hc : Charted (landmarks xs b) c :=
    charted_performAll (b := b) (charted_ofSettings rateMs places) xs
  have ht : Traced (chronicle xs b) c :=
    traced_performAll (b := b) (traced_ofSettings rateMs places) xs
  have ha : c.Attended :=
    attended_performAll (b := b) (charted_ofSettings rateMs places) (untold_ofSettings rateMs places) xs
  refine ⟨fun h => ⟨h.quit_eq n,h.quitAll_eq⟩,?_,Collector.quit_notFound,?_,
    fun ns => ha.quitEach_quitAll⟩
  · cases hn : c.entries.get? n with
    | none => simp [Collector.quit_notFound hn]
    | some g =>
      rw [(ha.quit_eq hn).1]
      cases c.handback g <;> simp [Collector.Stop.ofHandback]
  · intro g hn
    obtain ⟨hq,hd⟩ := ha.quit_eq hn
    refine ⟨hd,?_,?_,?_⟩
    · rw [hq,← ha.handback_eq_none]
      cases c.handback g <;> simp [Collector.Stop.ofHandback]
    · intro i hi
      have hb : c.handback g = some i := by
        rw [hq] at hi
        cases hb : c.handback g <;> rw [hb] at hi <;> cases hi
        rfl
      exact ⟨accepts_of_handback hc ht hn hb,(accounted_performAll (b := b) rfl xs).channels i⟩
    · have hs : Silenced g (s.adopt (c.quit n).2).collector := by
        show Silenced g (c.quit n).2.1
        rw [hd]
        refine ⟨ha.fresh n g hn,fun l hl hg => ?_⟩
        simpa [hg] using (List.mem_filter.mp hl).2
      exact hs.readings_ne

def sampled : List Deed :=
  [.act (.supply { name := "web" } 4),.act (.supply { name := "db" } 4),.act (.collect 0),
    .act (.collect 1),.act (.offer 0 { memory := some ⟨1⟩ }),.act (.offer 0 { memory := some ⟨2⟩ }),
    .act (.tick 7 0)]

def afterSampled : Metering := performAll sampled (ofSettings 100 8 {})

theorem stop_final_sampled :
    afterSampled.collector.stop "cache" = (.notFound,afterSampled.collector,[]) ∧
      (afterSampled.collector.stop "web").1 = .channel 0 ∧
      sentTo 0 (chronicle sampled (ofSettings 100 8 {})) =
        takenFrom 0 (chronicle sampled (ofSettings 100 8 {}))++
          afterSampled.collector.channels.queuedAt 0 ∧
      afterSampled.collector.channels.queuedAt 0 = [{ memory := some ⟨2⟩ }] ∧
      (∀ r ∈ readings (chronicle [.act (.tick 8 0),.act (.tick 9 1)]
        (afterSampled.adopt (afterSampled.collector.stop "web").2)),r.loop ≠ 0) ∧
      (afterSampled.collector.quitEach ["web","db"]).2 = afterSampled.collector.stopAll.2.1 := by
  obtain ⟨hfree,-,hnone,-,-⟩ := stop_final 100 8 {} sampled "cache"
  obtain ⟨hsettled,-,-,hsome,hall⟩ := stop_final 100 8 {} sampled "web"
  have hs : afterSampled.collector.Settled := by decide
  have he : afterSampled.collector.entries.get? "web" = some 0 := by decide
  have hi : (afterSampled.collector.quit "web").1 = .channel 0 := by decide
  obtain ⟨-,-,hback,hlater⟩ := hsome 0 he
  have hcache : afterSampled.collector.stop "cache" = (.notFound,afterSampled.collector,[]) :=
    (hfree hs).1.symm.trans (hnone (by decide))
  have hweb : afterSampled.collector.stop "web" = afterSampled.collector.quit "web" :=
    (hsettled hs).1.symm
  have hstopAll : afterSampled.collector.stopAll = afterSampled.collector.quitAll := (hsettled hs).2.symm
  refine ⟨hcache,?_,(hback 0 hi).2,by decide,?_,?_⟩
  · rw [hweb,hi]
  · rw [hweb]
    exact hlater _
  · rw [hstopAll]
    exact (hall ["web","db"] (by decide)).1

end Metering

end HostMeter
