import HostMeter.Proofs.Collector.Stop
set_option autoImplicit false

/-! What the poll loops of a sound collector do when they look into their channels: most looks leave
the entries alone, and a loop whose channel is disconnected takes itself and its entry away. -/

namespace HostMeter

namespace Collector

variable {c d : Collector} {l : PollLoop} {ls : List PollLoop} {g g' : Nat} {clock : Timestamp}

inductive Look (c : Collector) (g : Nat) (d : Collector) : Prop
  | idle (same : d = c)
  | looked (l : PollLoop) (mem : l ∈ c.loops) (connected : (c.channels.take l.channel).1 ≠ .disconnected)
    (entries : d.entries = c.entries) (loops : d.loops = c.loops.map (reschedule g c.rateMs))
    (next : d.nextGeneration = c.nextGeneration)
    (channels : d.channels = c.channels ∨ d.channels = (c.channels.take l.channel).2)
  | left (l : PollLoop) (mem : l ∈ c.loops) (disconnected : (c.channels.take l.channel).1 = .disconnected)
    (entries : d.entries = c.entries.erase l.name)
    (loops : d.loops = (c.without l).loops) (next : d.nextGeneration = c.nextGeneration)

theorem reschedule_fields (g ms : Nat) (l : PollLoop) :
    (reschedule g ms l).generation = l.generation ∧ (reschedule g ms l).name = l.name ∧
      (reschedule g ms l).phase = l.phase := by
  unfold reschedule
  split <;> exact ⟨rfl,rfl,rfl⟩

theorem reschedule_channel (g ms : Nat) (l : PollLoop) :
    (reschedule g ms l).channel = l.channel := by
  unfold reschedule
  split <;> rfl

theorem find?_map_reschedule (ms : Nat) :
    (ls.map (reschedule g ms)).find? (·.generation = g') =
      (ls.find? (·.generation = g')).map (reschedule g ms) := by
  rw [List.find?_map]
  congr 2
  funext l
  simp [(reschedule_fields g ms l).1]

theorem filter_map_reschedule (ms : Nat) :
    (ls.map (reschedule g ms)).filter (·.generation ≠ g) = ls.filter (·.generation ≠ g) := by
  induction ls with
  | nil => rfl
  | cons l ls ih =>
    rw [List.map_cons]
    by_cases hg : l.generation = g
    · rw [List.filter_cons_of_neg (by simp [(reschedule_fields g ms l).1,hg]),
        List.filter_cons_of_neg (by simp [hg]),ih]
    · have hl : reschedule g ms l = l := by simp [reschedule,hg]
      rw [hl,List.filter_cons_of_pos (by simp [hg]),List.filter_cons_of_pos (by simp [hg]),ih]

theorem release_of_not_leaving (h : ∀ l,c.loop? g = some l → l.phase ≠ .leaving) :
    c.release g = (c,[]) := by
  unfold release
  split
  · rename_i l hl
    rw [if_neg (h l hl)]
  · rfl

theorem tick_idle (h : ∀ l,c.loop? g = some l → l.phase ≠ .polling) : c.tick clock g = (c,[]) := by
  unfold tick
  split
  · rename_i l hl
    rw [if_neg (h l hl)]
  · rfl

theorem emit_fields (clock : Timestamp) (container : Container) (u : Usage) (c : Collector) :
    (c.emit clock container u).1.entries = c.entries ∧ (c.emit clock container u).1.loops = c.loops ∧
      (c.emit clock container u).1.nextGeneration = c.nextGeneration ∧
      (c.emit clock container u).1.channels = c.channels := by
  unfold emit
  split <;> exact ⟨rfl,rfl,rfl,rfl⟩

theorem tick_connected (hl : c.loop? g = some l) (hp : l.phase = .polling)
    (ht : (c.channels.take l.channel).1 ≠ .disconnected) :
    (c.tick clock g).1.entries = c.entries ∧
      (c.tick clock g).1.loops = c.loops.map (reschedule g c.rateMs) ∧
      (c.tick clock g).1.nextGeneration = c.nextGeneration ∧
      ((c.tick clock g).1.channels = c.channels ∨
        (c.tick clock g).1.channels = (c.channels.take l.channel).2) := by
  simp only [tick,hl,hp,if_true]
  split
  · rename_i ch u channels hc hu
    have hf := emit_fields clock ch.container u
      { c with channels, loops := c.loops.map (reschedule g c.rateMs) }
    refine ⟨hf.1,hf.2.1,hf.2.2.1,.inr ?_⟩
    rw [hu]
    exact hf.2.2.2
  · rename_i hu
    rw [hu] at ht
    exact absurd rfl ht
  · exact ⟨rfl,rfl,rfl,.inl rfl⟩

theorem tick_disconnected (hl : c.loop? g = some l) (hp : l.phase = .polling)
    (ht : (c.channels.take l.channel).1 = .disconnected) :
    (c.tick clock g).1 =
      { c with
        loops := (c.loops.map (reschedule g c.rateMs)).map (setPhase g .polling .leaving) } := by
  simp only [tick,hl,hp,if_true]
  split
  · rename_i hu
    rw [hu] at ht
    cases ht
  · rfl
  · rename_i h₁ h₂
    rcases hx : c.channels.take l.channel with ⟨t,cs⟩
    rw [hx] at ht
    simp only at ht
    subst ht
    exact absurd hx (h₁ _)

namespace Sound

theorem release_leaving (h : c.Sound) (hl : l ∈ c.loops)
    (hd : d = { c with
      loops := (c.loops.map (reschedule l.generation c.rateMs)).map
        (setPhase l.generation .polling .leaving) })
    (hp : l.phase = .polling) :
    (d.release l.generation).1.entries = c.entries.erase l.name ∧
      (d.release l.generation).1.loops = (c.without l).loops ∧
      (d.release l.generation).1.nextGeneration = c.nextGeneration := by
  have hf : c.loops.find? (·.generation = l.generation) = some l := h.loop?_eq hl
  have hl' : d.loop? l.generation =
      some { reschedule l.generation c.rateMs l with phase := .leaving } := by
    rw [hd]
    simp only [loop?,find?_map_setPhase,find?_map_reschedule,hf,Option.map_some]
    simp [setPhase,reschedule_fields,hp]
  have hn : d.entries.get? l.name = some l.generation := by
    rw [hd]
    exact h.tied l hl
  have hloops : d.loops.filter (·.generation ≠ l.generation) = (c.without l).loops := by
    rw [hd]
    simp only [filter_map_setPhase,filter_map_reschedule]
    rfl
  simp only [release,hl',reschedule_fields,hn,if_true]
  refine ⟨?_,hloops,?_⟩
  · rw [hd]
  · rw [hd]
    rfl

theorem poll_look (h : c.Sound) (clock : Timestamp) (g : Nat) : Look c g (c.poll clock g).1 := by
  by_cases hi : ∀ l,c.loop? g = some l → l.phase ≠ .polling
  · apply Look.idle
    have hr : c.release g = (c,[]) := by
      apply release_of_not_leaving
      intro l hl
      rcases h.atRest l (List.mem_of_find?_eq_some hl) with hp | hp
      · exact absurd hp (hi l hl)
      · simp [hp]
    simp only [poll,tick_idle hi,hr]
  · obtain ⟨l,hl,hp⟩ : ∃ l,c.loop? g = some l ∧ l.phase = .polling := by
      simpa using hi
    have hm : l ∈ c.loops := List.mem_of_find?_eq_some hl
    have hg : l.generation = g := generation_of_loop? hl
    -- A loop that leaves is released within the same look: afterwards no loop is on its way out.
    by_cases ht : (c.channels.take l.channel).1 = .disconnected
    · have hd := @tick_disconnected c l g clock hl hp ht
      subst hg
      obtain ⟨he,hls,hn⟩ := h.release_leaving hm hd hp
      exact .left l hm ht he hls hn
    · obtain ⟨he,hls,hn,hc⟩ := @tick_connected c l g clock hl hp ht
      have hr : (c.tick clock g).1.release g = ((c.tick clock g).1,[]) := by
        apply release_of_not_leaving
        intro k hk
        rw [loop?,hls,find?_map_reschedule] at hk
        have hf : c.loops.find? (·.generation = g) = some l := hl
        rw [hf] at hk
        cases hk
        simp [reschedule_fields,hp]
      have hp : (c.poll clock g).1 = (c.tick clock g).1 := by
        simp only [poll,hr]
      rw [hp]
      exact .looked l hm ht he hls hn hc

theorem look (h : c.Sound) (hd : Look c g d) : d.Sound := by
  cases hd with
  | idle same =>
    rw [same]
    exact h
  | looked l _ _ he hl hn _ => exact h.map (reschedule_fields g c.rateMs) he hl hn
  | left l hm _ he hl hn => exact (h.without hm).congr he hl hn

theorem pollAll (h : c.Sound) (gs : List Nat) : (c.pollAll clock gs).1.Sound := by
  induction gs generalizing c with
  | nil => exact h
  | cons g gs ih => exact ih (h.look (h.poll_look clock g))

theorem instant (h : c.Sound) (clock : Timestamp) (t : Nat) : (c.instant clock t).1.Sound :=
  (h.congr (d := { c with now := t }) rfl rfl rfl).pollAll (c.dueAt t)

theorem isCollecting_pollAll (h : c.Sound) (gs : List Nat) (n : String)
    (hn : (c.pollAll clock gs).1.isCollecting n = true) : c.isCollecting n = true := by
  induction gs generalizing c with
  | nil => exact hn
  | cons g gs ih =>
    have hp := ih (h.look (h.poll_look clock g)) hn
    rw [isCollecting_eq] at hp ⊢
    cases h.poll_look clock g with
    | idle same => rwa [same] at hp
    | looked l _ _ he _ _ _ => rwa [he] at hp
    | left l _ _ he _ _ =>
      rw [he,Table.get?_erase] at hp
      split at hp
      · cases hp
      · exact hp

theorem isCollecting_instant (h : c.Sound) (t : Nat) (n : String)
    (hn : (c.instant clock t).1.isCollecting n = true) : c.isCollecting n = true :=
  (h.congr (d := { c with now := t }) rfl rfl rfl).isCollecting_pollAll (c.dueAt t) n hn

end Sound

end Collector

end HostMeter
