import HostMeter.Proofs.Collector.Poll
set_option autoImplicit false

/-! As long as every loop's channel has its producer, looking into the channels ends no loop. -/

namespace HostMeter

theorem Channel.take_fed {α : Type} (c : Channel α) : c.take.2.fed = c.fed := by
  unfold take
  split <;> rfl

theorem Channel.take_of_fed {α : Type} {c : Channel α} (h : c.fed = true) :
    c.take.1 ≠ .disconnected := by
  unfold take
  split <;> simp [h]

namespace UsageChannels

variable {cs : UsageChannels} {i j : ChannelId}

def IsFed (cs : UsageChannels) (i : ChannelId) : Prop :=
  ∃ ch,cs.get? i = some ch ∧ ch.feed.fed = true

instance (cs : UsageChannels) (i : ChannelId) : Decidable (cs.IsFed i) :=
  decidable_of_iff (((cs.get? i).map (·.feed.fed)) = some true) (by simp [IsFed])

theorem take_of_isFed (h : cs.IsFed i) : (cs.take i).1 ≠ .disconnected := by
  obtain ⟨ch,hg,hf⟩ := h
  simp only [take,hg]
  exact Channel.take_of_fed hf

theorem IsFed.take (h : cs.IsFed i) (j : ChannelId) : (cs.take j).2.IsFed i := by
  obtain ⟨ch,hg,hf⟩ := h
  unfold UsageChannels.take
  split
  · exact ⟨ch,hg,hf⟩
  · by_cases hj : j = i
    · refine ⟨{ ch with feed := ch.feed.take.2 },?_,?_⟩
      · rw [get?_modify,if_pos hj,hg]
        rfl
      · show ch.feed.take.2.fed = true
        rw [Channel.take_fed]
        exact hf
    · refine ⟨ch,?_,hf⟩
      rw [get?_modify,if_neg hj]
      exact hg

end UsageChannels

namespace Collector

variable {c d : Collector} {g : Nat} {clock : Timestamp}

def Fed (c : Collector) : Prop := ∀ l ∈ c.loops,c.channels.IsFed l.channel

instance (c : Collector) : Decidable c.Fed :=
  inferInstanceAs (Decidable (∀ l ∈ c.loops,c.channels.IsFed l.channel))

theorem Fed.look (h : c.Fed) (hl : Look c g d) : d.Fed ∧ d.entries = c.entries := by
  cases hl with
  | idle same =>
    rw [same]
    exact ⟨h,rfl⟩
  | looked l _ _ he hls _ hch =>
    refine ⟨?_,he⟩
    intro k hk
    rw [hls] at hk
    obtain ⟨k₀,hk₀,rfl⟩ := List.mem_map.mp hk
    rw [reschedule_channel]
    rcases hch with hch | hch
    · rw [hch]
      exact h k₀ hk₀
    · rw [hch]
      exact (h k₀ hk₀).take l.channel
  | left l hm hd => exact absurd hd (UsageChannels.take_of_isFed (h l hm))

theorem Fed.entries_pollAll (h : c.Fed) (hs : c.Sound) (gs : List Nat) :
    (c.pollAll clock gs).1.entries = c.entries := by
  induction gs generalizing c with
  | nil => rfl
  | cons g gs ih =>
    have hl := hs.poll_look clock g
    obtain ⟨hf,he⟩ := h.look hl
    exact (ih hf (hs.look hl)).trans he

theorem Fed.entries_instant (h : c.Fed) (hs : c.Sound) (clock : Timestamp) (t : Nat) :
    (c.instant clock t).1.entries = c.entries :=
  Fed.entries_pollAll (c := { c with now := t }) h (hs.congr rfl rfl rfl) (c.dueAt t)

end Collector

end HostMeter
