import HostMeter.Proofs.Collector.Changes
set_option autoImplicit false

/-! Channels and loops by the names of containers. A channel never changes the container it is for, and the
loops of a sound collector, one for each name, keep looking into channels for their own containers. -/

namespace HostMeter

namespace UsageChannels

def Carries (cs : UsageChannels) (i : ChannelId) (n : String) : Prop :=
  (cs.get? i).map (·.container.name) = some n

/-- No channel has got lost or changed its container. -/
def Within (cs ds : UsageChannels) : Prop := ∀ i n,cs.Carries i n → ds.Carries i n

variable {cs ds es : UsageChannels} {i j : ChannelId} {n : String} {ch : UsageChannel}

theorem Carries.lt (h : cs.Carries i n) : i < cs.next := by
  obtain ⟨ch,hc,-⟩ := Option.map_eq_some_iff.mp h
  exact (List.getElem?_eq_some_iff.mp hc).1

theorem Carries.name_eq (h : cs.Carries i n) : cs.name i = n := by
  have h : (cs.get? i).map (·.container.name) = some n := h
  rw [name,h]
  rfl

theorem Carries.unique {m : String} (h : cs.Carries i n) (g : cs.Carries i m) : n = m :=
  h.name_eq.symm.trans g.name_eq

theorem carries_of_lt (h : i < cs.next) : cs.Carries i (cs.name i) := by
  have hg : cs.get? i = some cs.all[i] := List.getElem?_eq_getElem h
  simp [Carries,name,hg]

theorem get?_add_of_lt (h : i < cs.next) (ch : UsageChannel) : (cs.add ch).get? i = cs.get? i :=
  List.getElem?_append_left h

theorem carries_modify (f : Channel Usage → Channel Usage) :
    (cs.modify j f).Carries i n ↔ cs.Carries i n := by
  unfold Carries
  rw [get?_modify]
  split
  · rw [Option.map_map]
    rfl
  · rfl

theorem Within.refl (cs : UsageChannels) : cs.Within cs := fun _ _ h => h

theorem Within.trans (h : cs.Within ds) (g : ds.Within es) : cs.Within es := fun i n hc => g i n (h i n hc)

theorem within_modify (j : ChannelId) (f : Channel Usage → Channel Usage) : cs.Within (cs.modify j f) :=
  fun _ _ h => (carries_modify f).mpr h

theorem within_add (ch : UsageChannel) : cs.Within (cs.add ch) := by
  intro i n h
  unfold Carries
  rw [get?_add_of_lt h.lt]
  exact h

end UsageChannels

theorem Metering.Rechanneled.within {cs ds : UsageChannels} (h : Rechanneled cs ds) : cs.Within ds := by
  cases h with
  | same => exact .refl cs
  | added container places => exact UsageChannels.within_add _
  | modified i f => exact UsageChannels.within_modify i f

namespace Collector

def Labelled (c : Collector) : Prop := ∀ l ∈ c.loops,c.channels.Carries l.channel l.name

variable {c d : Collector} {n : String} {i : ChannelId}

/-- Every loop that is there was there before, with the same name and the same channel. -/
def Retains (c d : Collector) : Prop :=
  ∀ l ∈ d.loops,∃ k ∈ c.loops,k.channel = l.channel ∧ k.name = l.name

theorem Retains.of_subset (h : d.loops ⊆ c.loops) : Retains c d := fun l hl => ⟨l,h hl,rfl,rfl⟩

theorem Labelled.retained (h : c.Labelled) (hl : Retains c d) (hc : c.channels.Within d.channels) :
    d.Labelled := by
  intro l hm
  obtain ⟨k,hk,hi,hn⟩ := hl l hm
  rw [← hi,← hn]
  exact hc _ _ (h k hk)

theorem within_collect (i : ChannelId) (c : Collector) : c.channels.Within (c.collect i).2.1.channels := by
  cases hc : c.isCollecting (c.channels.name i) with
  | true =>
    rw [collect_refused hc]
    exact UsageChannels.within_modify i _
  | false =>
    rw [collect_started hc]
    simp only
    split
    · exact UsageChannels.within_modify i _
    · exact .refl _

theorem Labelled.collect (h : c.Labelled) (hi : c.channels.Carries i n) : (c.collect i).2.1.Labelled := by
  have hw := within_collect i c
  intro l hl
  cases hc : c.isCollecting (c.channels.name i) with
  | true =>
    rw [collect_refused hc] at hl hw ⊢
    exact hw _ _ (h l hl)
  | false =>
    rw [collect_started hc] at hl hw ⊢
    rcases List.mem_append.mp hl with hl | hl
    · exact hw _ _ (h l hl)
    · rw [List.mem_singleton.mp hl]
      refine hw _ _ ?_
      show c.channels.Carries i (c.channels.name i)
      rw [hi.name_eq]
      exact hi

theorem Sound.retains_stop (h : c.Sound) (n : String) : Retains c (c.stop n).2.1 := by
  rcases h.stop_cases n with ⟨-,hd⟩ | ⟨l,-,-,hd⟩
  · rw [hd]
    exact .of_subset (List.Subset.refl _)
  · rw [hd]
    exact .of_subset (List.filter_subset_self _)

theorem within_poll (clock : Timestamp) (g : Nat) (c : Collector) :
    c.channels.Within (c.poll clock g).1.channels := by
  have ht := (Metering.rechanneled_tick clock g c).within
  have hr : (c.tick clock g).1.channels.Within ((c.tick clock g).1.release g).1.channels :=
    (Metering.rechanneled_act (.release g) (c.tick clock g).1).within
  exact ht.trans hr

theorem Sound.retains_poll (h : c.Sound) (clock : Timestamp) (g : Nat) :
    Retains c (c.poll clock g).1 := by
  cases h.poll_look clock g with
  | idle same =>
    rw [same]
    exact .of_subset (List.Subset.refl _)
  | looked l _ _ _ hls _ _ =>
    intro k hk
    rw [hls] at hk
    obtain ⟨k₀,hk₀,rfl⟩ := List.mem_map.mp hk
    exact ⟨k₀,hk₀,(reschedule_channel g c.rateMs k₀).symm,(reschedule_fields g c.rateMs k₀).2.1.symm⟩
  | left l _ _ _ hls _ =>
    refine .of_subset ?_
    rw [hls]
    exact List.filter_subset_self _

theorem Labelled.pollAll (h : c.Labelled) (hs : c.Sound) (clock : Timestamp) (gs : List Nat) :
    (c.pollAll clock gs).1.Labelled ∧ c.channels.Within (c.pollAll clock gs).1.channels := by
  induction gs generalizing c with
  | nil => exact ⟨h,.refl _⟩
  | cons g gs ih =>
    have hw := within_poll clock g c
    obtain ⟨hl,hws⟩ := ih (h.retained (hs.retains_poll clock g) hw) (hs.look (hs.poll_look clock g))
    exact ⟨hl,hw.trans hws⟩

theorem Labelled.instant (h : c.Labelled) (hs : c.Sound) (clock : Timestamp) (t : Nat) :
    (c.instant clock t).1.Labelled ∧ c.channels.Within (c.instant clock t).1.channels :=
  pollAll (c := { c with now := t }) h (hs.congr rfl rfl rfl) clock (c.dueAt t)

def poll? (n : String) (c : Collector) : Option PollLoop := (c.entries.get? n).bind c.loop?

theorem poll?_eq_none (h : c.isCollecting n = false) : c.poll? n = none := by
  rw [isCollecting_eq] at h
  have hn : c.entries.get? n = none := by simpa using h
  rw [poll?,hn]
  rfl

theorem Sound.poll?_eq_some_iff (h : c.Sound) {l : PollLoop} :
    c.poll? n = some l ↔ l ∈ c.loops ∧ l.name = n := by
  constructor
  · intro hl
    obtain ⟨g,hg,hl⟩ := Option.bind_eq_some_iff.mp hl
    obtain ⟨k,hk,hkg,hkn⟩ := h.driven n g hg
    have hm : l ∈ c.loops := List.mem_of_find?_eq_some hl
    have he : k = l := h.eq_of_generation hk hm (hkg.trans (generation_of_loop? hl).symm)
    exact ⟨hm,he ▸ hkn⟩
  · rintro ⟨hm,rfl⟩
    rw [poll?,h.tied l hm]
    exact h.loop?_eq hm

theorem Sound.isSome_poll? (h : c.Sound) (n : String) : (c.poll? n).isSome = c.isCollecting n := by
  cases hc : c.isCollecting n with
  | false =>
    rw [poll?_eq_none hc]
    rfl
  | true =>
    obtain ⟨g,hg⟩ := Option.isSome_iff_exists.mp hc
    obtain ⟨l,hl,-,hn⟩ := h.driven n g hg
    rw [h.poll?_eq_some_iff.mpr ⟨hl,hn⟩]
    rfl

theorem Sound.isCollecting_of_poll?_eq_none (h : c.Sound) (hp : c.poll? n = none) :
    c.isCollecting n = false := by
  rw [← h.isSome_poll?,hp]
  rfl

theorem Sound.poll?_congr (h : c.Sound) (g : d.Sound)
    (hl : ∀ l : PollLoop,l.name = n → (l ∈ d.loops ↔ l ∈ c.loops)) : d.poll? n = c.poll? n := by
  apply Option.ext
  intro l
  rw [g.poll?_eq_some_iff,h.poll?_eq_some_iff]
  constructor
  · exact fun ⟨hm,hn⟩ => ⟨(hl l hn).mp hm,hn⟩
  · exact fun ⟨hm,hn⟩ => ⟨(hl l hn).mpr hm,hn⟩

theorem Labelled.poll? (h : c.Labelled) (hs : c.Sound) {l : PollLoop} (hl : c.poll? n = some l) :
    c.channels.Carries l.channel n := by
  obtain ⟨hm,rfl⟩ := hs.poll?_eq_some_iff.mp hl
  exact h l hm

end Collector

end HostMeter
