import HostMeter.Collector
import Mathlib.Data.List.Nodup
set_option autoImplicit false

/-! Between two operations the collector is sound: every loop has an entry under its name and every
entry its loop, no two loops share a generation, and no loop is on its way out. -/

namespace HostMeter

namespace Collector

structure Sound (c : Collector) : Prop where
  fresh : ∀ l ∈ c.loops,l.generation < c.nextGeneration
  distinct : (c.loops.map (·.generation)).Nodup
  tied : ∀ l ∈ c.loops,c.entries.get? l.name = some l.generation
  driven : ∀ n g,c.entries.get? n = some g → ∃ l ∈ c.loops,l.generation = g ∧ l.name = n
  atRest : ∀ l ∈ c.loops,l.phase = .polling ∨ l.phase = .crashed

/-- No loop has crashed. -/
def Unharmed (c : Collector) : Prop := ∀ l ∈ c.loops,l.phase ≠ .crashed

instance (c : Collector) : Decidable c.Unharmed :=
  inferInstanceAs (Decidable (∀ l ∈ c.loops,l.phase ≠ .crashed))

/-- A loop that starts now can wait for its first look. -/
def CanWait (c : Collector) : Prop := c.now+c.rateMs < lastInstant

instance (c : Collector) : Decidable c.CanWait :=
  inferInstanceAs (Decidable (c.now+c.rateMs < lastInstant))

def without (l : PollLoop) (c : Collector) : Collector :=
  { c with
    entries := c.entries.erase l.name
    loops := c.loops.filter (·.generation ≠ l.generation) }

variable {c d : Collector} {l l' : PollLoop} {n : String} {g : Nat}

theorem isCollecting_eq (c : Collector) (n : String) :
    c.isCollecting n = (c.entries.get? n).isSome := rfl

theorem sound_of_empty (he : c.entries = .empty) (hl : c.loops = []) : c.Sound where
  fresh := by simp [hl]
  distinct := by simp [hl]
  tied := by simp [hl]
  driven := by simp [he]
  atRest := by simp [hl]

theorem freshLoop_phase (c : Collector) (n : String) (i : ChannelId) :
    (c.freshLoop n i).phase = .polling ∨ (c.freshLoop n i).phase = .crashed := by
  unfold freshLoop
  split
  · exact .inl rfl
  · exact .inr rfl

theorem freshLoop_of_canWait (h : c.CanWait) (n : String) (i : ChannelId) :
    (c.freshLoop n i).phase = .polling := by
  have hw : c.now+c.rateMs < lastInstant := h
  simp [freshLoop,hw]

theorem collect_refused {i : ChannelId} (h : c.isCollecting (c.channels.name i) = true) :
    c.collect i =
      (false,{ c with channels := c.channels.close i },[.refused (c.channels.name i)]) := by
  simp [collect,h]

theorem collect_started {i : ChannelId} (h : c.isCollecting (c.channels.name i) = false) :
    c.collect i =
      (true,
        { c with
          entries := c.entries.insert (c.channels.name i) c.nextGeneration
          loops := c.loops++[c.freshLoop (c.channels.name i) i]
          nextGeneration := c.nextGeneration+1
          channels :=
            if (c.freshLoop (c.channels.name i) i).phase = .crashed then c.channels.close i
            else c.channels },
        [.started (c.channels.name i) c.rateWord.toNat
          (c.entries.insert (c.channels.name i) c.nextGeneration).size]) := by
  simp [collect,h]

theorem collect_unharmed (hw : c.CanWait) (hu : c.Unharmed) (i : ChannelId) :
    (c.collect i).2.1.CanWait ∧ (c.collect i).2.1.Unharmed := by
  cases hc : c.isCollecting (c.channels.name i) with
  | true =>
    rw [collect_refused hc]
    exact ⟨hw,hu⟩
  | false =>
    rw [collect_started hc]
    refine ⟨hw,?_⟩
    intro l hl
    rcases List.mem_append.mp hl with hl | hl
    · exact hu l hl
    · rw [List.mem_singleton.mp hl,freshLoop_of_canWait hw]
      simp

namespace Sound

theorem eq_of_generation (h : c.Sound) (hl : l ∈ c.loops) (hl' : l' ∈ c.loops)
    (hg : l.generation = l'.generation) : l = l' :=
  List.inj_on_of_nodup_map h.distinct hl hl' hg

theorem loop?_eq (h : c.Sound) (hl : l ∈ c.loops) : c.loop? l.generation = some l := by
  have hs : (c.loop? l.generation).isSome := by
    rw [loop?,List.find?_isSome]
    exact ⟨l,hl,by simp⟩
  obtain ⟨l',hl'⟩ := Option.isSome_iff_exists.mp hs
  have hg : l'.generation = l.generation := by simpa using List.find?_some hl'
  rw [hl',h.eq_of_generation (List.mem_of_find?_eq_some hl') hl hg]

theorem map {f : PollLoop → PollLoop} (h : c.Sound)
    (hf : ∀ l,(f l).generation = l.generation ∧ (f l).name = l.name ∧ (f l).phase = l.phase)
    (he : d.entries = c.entries) (hl : d.loops = c.loops.map f)
    (hn : d.nextGeneration = c.nextGeneration) : d.Sound where
  fresh := by
    intro l hm
    rw [hl] at hm
    obtain ⟨l₀,hl₀,rfl⟩ := List.mem_map.mp hm
    rw [(hf l₀).1,hn]
    exact h.fresh l₀ hl₀
  distinct := by
    have hg : (fun l : PollLoop => l.generation) ∘ f = fun l => l.generation :=
      funext fun l => (hf l).1
    rw [hl,List.map_map,hg]
    exact h.distinct
  tied := by
    intro l hm
    rw [hl] at hm
    obtain ⟨l₀,hl₀,rfl⟩ := List.mem_map.mp hm
    rw [(hf l₀).1,(hf l₀).2.1,he]
    exact h.tied l₀ hl₀
  driven := by
    intro n g hg
    rw [he] at hg
    obtain ⟨l,hm,hlg,hln⟩ := h.driven n g hg
    refine ⟨f l,?_,?_,?_⟩
    · rw [hl]
      exact List.mem_map_of_mem hm
    · rw [(hf l).1,hlg]
    · rw [(hf l).2.1,hln]
  atRest := by
    intro l hm
    rw [hl] at hm
    obtain ⟨l₀,hl₀,rfl⟩ := List.mem_map.mp hm
    rw [(hf l₀).2.2]
    exact h.atRest l₀ hl₀

theorem congr (h : c.Sound) (he : d.entries = c.entries) (hl : d.loops = c.loops)
    (hn : d.nextGeneration = c.nextGeneration) : d.Sound :=
  h.map (f := id) (fun _ => ⟨rfl,rfl,rfl⟩) he (by simpa using hl) hn

theorem name_ne (h : c.Sound) (hn : c.entries.get? n = none) (hl : l ∈ c.loops) : l.name ≠ n := by
  intro he
  have ht := h.tied l hl
  rw [he,hn] at ht
  cases ht

theorem add (h : c.Sound) (hn : c.entries.get? l.name = none) (hg : l.generation = c.nextGeneration)
    (hp : l.phase = .polling ∨ l.phase = .crashed)
    (he : d.entries = c.entries.insert l.name l.generation) (hl : d.loops = c.loops++[l])
    (hd : d.nextGeneration = c.nextGeneration+1) : d.Sound where
  fresh := by
    intro k hk
    rw [hl] at hk
    rw [hd]
    rcases List.mem_append.mp hk with hk | hk
    · exact Nat.lt_succ_of_lt (h.fresh k hk)
    · rw [List.mem_singleton.mp hk,hg]
      exact Nat.lt_succ_self _
  distinct := by
    rw [hl,List.map_append]
    refine List.nodup_append.mpr ⟨h.distinct,by simp,?_⟩
    intro a ha b hb
    obtain ⟨k,hk,rfl⟩ := List.mem_map.mp ha
    have hb : b = l.generation := by simpa using hb
    rw [hb,hg]
    exact Nat.ne_of_lt (h.fresh k hk)
  tied := by
    intro k hk
    rw [hl] at hk
    rw [he,Table.get?_insert]
    rcases List.mem_append.mp hk with hk | hk
    · rw [if_neg (h.name_ne hn hk)]
      exact h.tied k hk
    · rw [List.mem_singleton.mp hk,if_pos rfl]
  driven := by
    intro n g hn
    rw [he,Table.get?_insert] at hn
    rw [hl]
    split at hn
    · rename_i hname
      cases hn
      exact ⟨l,List.mem_append_right _ List.mem_cons_self,rfl,hname.symm⟩
    · obtain ⟨k,hk,hkg,hkn⟩ := h.driven n g hn
      exact ⟨k,List.mem_append_left _ hk,hkg,hkn⟩
  atRest := by
    intro k hk
    rw [hl] at hk
    rcases List.mem_append.mp hk with hk | hk
    · exact h.atRest k hk
    · rw [List.mem_singleton.mp hk]
      exact hp

theorem collect (h : c.Sound) (i : ChannelId) : (c.collect i).2.1.Sound := by
  cases hc : c.isCollecting (c.channels.name i) with
  | true =>
    rw [collect_refused hc]
    exact h.congr rfl rfl rfl
  | false =>
    rw [collect_started hc]
    have hn : c.entries.get? (c.freshLoop (c.channels.name i) i).name = none := by
      rw [isCollecting_eq] at hc
      simpa [freshLoop] using hc
    exact h.add hn rfl (freshLoop_phase c _ i) rfl rfl rfl

theorem without (h : c.Sound) (hl : l ∈ c.loops) : (c.without l).Sound where
  fresh := fun l' hl' => h.fresh l' (List.mem_of_mem_filter hl')
  distinct := h.distinct.sublist (List.filter_sublist.map _)
  tied := by
    intro l' hl'
    obtain ⟨hm,hg⟩ := List.mem_filter.mp hl'
    -- Two loops under one name would be tied to the same entry, and be one loop.
    have hn : l'.name ≠ l.name := by
      intro hn
      have := h.tied l' hm
      rw [hn,h.tied l hl] at this
      simp at this
      simp [this] at hg
    show (c.entries.erase l.name).get? l'.name = _
    rw [Table.get?_erase,if_neg hn]
    exact h.tied l' hm
  driven := by
    intro n g hg
    have hg : (c.entries.erase l.name).get? n = some g := hg
    rw [Table.get?_erase] at hg
    split at hg
    · cases hg
    · rename_i hn
      obtain ⟨l',hm,hlg,hln⟩ := h.driven n g hg
      refine ⟨l',List.mem_filter.mpr ⟨hm,?_⟩,hlg,hln⟩
      have hne : l'.generation ≠ l.generation := by
        intro he
        rw [h.eq_of_generation hm hl he] at hln
        exact hn hln.symm
      simpa using hne
  atRest := fun l' hl' => h.atRest l' (List.mem_of_mem_filter hl')

end Sound

end Collector

end HostMeter
