import HostMeter.Proofs.Collector.Sound
import HostMeter.Proofs.Table
set_option autoImplicit false

/-! Stopping a sound collector: the loop is gone with its entry, and its channel comes back unless
the loop had crashed. -/

namespace HostMeter

namespace Collector

variable {c d : Collector} {l : PollLoop} {ls : List PollLoop} {n : String} {g g' : Nat}
  {a b : Phase}

@[simp] theorem setPhase_generation (g : Nat) (a b : Phase) (l : PollLoop) :
    (setPhase g a b l).generation = l.generation := by
  unfold setPhase
  split <;> rfl

theorem setPhase_of_ne (h : l.generation ≠ g) : setPhase g a b l = l := by
  simp [setPhase,h]

theorem find?_map_setPhase :
    (ls.map (setPhase g a b)).find? (·.generation = g') =
      (ls.find? (·.generation = g')).map (setPhase g a b) := by
  rw [List.find?_map]
  congr 2
  funext l
  simp

theorem filter_map_setPhase :
    (ls.map (setPhase g a b)).filter (·.generation ≠ g) = ls.filter (·.generation ≠ g) := by
  induction ls with
  | nil => rfl
  | cons l ls ih =>
    rw [List.map_cons]
    by_cases hg : l.generation = g
    · rw [List.filter_cons_of_neg (by simp [hg]),List.filter_cons_of_neg (by simp [hg]),ih]
    · rw [setPhase_of_ne hg,List.filter_cons_of_pos (by simp [hg]),
        List.filter_cons_of_pos (by simp [hg]),ih]

theorem forget_observe (c : Collector) (g : Nat) : (c.observe g).forget g = c.forget g := by
  simp only [forget,observe,filter_map_setPhase]

theorem loop?_observe (c : Collector) (g : Nat) :
    (c.observe g).loop? g = (c.loop? g).map (setPhase g .cancelled .ended) := find?_map_setPhase

theorem generation_of_loop? (h : c.loop? g = some l) : l.generation = g := by
  simpa using List.find?_some h

theorem finish_cancelled (h : c.loop? g = some l) (hp : l.phase = .cancelled) :
    (c.observe g).finish g = (.channel l.channel,c.forget g) := by
  have hl : (c.observe g).loop? g = some { l with phase := .ended } := by
    rw [loop?_observe,h]
    simp [setPhase,generation_of_loop? h,hp]
  simp [finish,hl,forget_observe]

theorem finish_crashed (h : c.loop? g = some l) (hp : l.phase = .crashed) :
    (c.observe g).finish g = (.lost,c.forget g) := by
  have hl : (c.observe g).loop? g = some l := by
    rw [loop?_observe,h]
    simp [setPhase,hp]
  simp [finish,hl,hp,forget_observe]

theorem finish_unknown (h : c.loop? g = none) : (c.observe g).finish g = (.lost,c.forget g) := by
  have hl : (c.observe g).loop? g = none := by
    rw [loop?_observe,h]
    rfl
  have hne : ∀ l ∈ c.loops,l.generation ≠ g := by
    simpa [loop?] using h
  have ho : c.observe g = c.forget g := by
    have hm : c.loops.map (setPhase g .cancelled .ended) = c.loops := by
      rw [List.map_congr_left (fun l hl => setPhase_of_ne (hne l hl)),List.map_id'']
      intro l
      rfl
    have hf : c.loops.filter (·.generation ≠ g) = c.loops :=
      List.filter_eq_self.mpr (fun l hl => by simpa using hne l hl)
    simp only [observe,forget,hm,hf]
  rw [ho] at hl ⊢
  simp [finish,hl]

theorem stop_notFound (h : c.isCollecting n = false) : c.stop n = (.notFound,c,[]) := by
  rw [isCollecting_eq] at h
  have hn : c.entries.get? n = none := by simpa using h
  simp [stop,cancel,hn]

def told (l : PollLoop) (c : Collector) : Collector :=
  { c with
    entries := c.entries.erase l.name
    loops := c.loops.map (setPhase l.generation .polling .cancelled) }

theorem forget_told (l : PollLoop) (c : Collector) : (c.told l).forget l.generation = c.without l := by
  simp only [forget,told,without,filter_map_setPhase]

theorem loop?_told (l : PollLoop) (c : Collector) :
    (c.told l).loop? l.generation =
      (c.loop? l.generation).map (setPhase l.generation .polling .cancelled) := find?_map_setPhase

namespace Sound

theorem cancel_eq (h : c.Sound) (hl : l ∈ c.loops) :
    c.cancel l.name =
      (some l.generation,c.told l,[.removed (c.entries.erase l.name).size]) := by
  simp [cancel,h.tied l hl,told]

theorem stop_polling (h : c.Sound) (hl : l ∈ c.loops) (hp : l.phase = .polling) :
    c.stop l.name =
      (.channel l.channel,c.without l,
        [.removed (c.entries.erase l.name).size,.stopped l.name]) := by
  have hf : (c.told l).loop? l.generation = some { l with phase := .cancelled } := by
    rw [loop?_told,h.loop?_eq hl]
    simp [setPhase,hp]
  have hw := finish_cancelled hf rfl
  rw [forget_told] at hw
  simp only [stop,h.cancel_eq hl,hw]
  rfl

theorem stop_crashed (h : c.Sound) (hl : l ∈ c.loops) (hp : l.phase = .crashed) :
    c.stop l.name = (.lost,c.without l,[.removed (c.entries.erase l.name).size]) := by
  have hf : (c.told l).loop? l.generation = some l := by
    rw [loop?_told,h.loop?_eq hl]
    simp [setPhase,hp]
  have hw := finish_crashed hf hp
  rw [forget_told] at hw
  simp only [stop,h.cancel_eq hl,hw]

theorem stop_cases (h : c.Sound) (n : String) :
    (c.isCollecting n = false ∧ (c.stop n).2.1 = c) ∨
      ∃ l ∈ c.loops,l.name = n ∧ (c.stop n).2.1 = c.without l := by
  cases hc : c.isCollecting n with
  | false =>
    rw [stop_notFound hc]
    exact .inl ⟨rfl,rfl⟩
  | true =>
    obtain ⟨g,hg⟩ := Option.isSome_iff_exists.mp hc
    obtain ⟨l,hl,-,rfl⟩ := h.driven n g hg
    refine .inr ⟨l,hl,rfl,?_⟩
    rcases h.atRest l hl with hp | hp
    · rw [h.stop_polling hl hp]
    · rw [h.stop_crashed hl hp]

theorem stop (h : c.Sound) (n : String) :
    (c.stop n).2.1.Sound ∧ (c.stop n).2.1.entries = c.entries.erase n := by
  rcases h.stop_cases n with ⟨hc,hd⟩ | ⟨l,hl,rfl,hd⟩
  · rw [hd]
    refine ⟨h,?_⟩
    apply Table.ext
    intro k
    rw [Table.get?_erase]
    split
    · rename_i hk
      rw [isCollecting_eq] at hc
      rw [hk]
      simpa using hc
    · rfl
  · rw [hd]
    exact ⟨h.without hl,rfl⟩

theorem stop_unharmed (h : c.Sound) (hw : c.CanWait) (hu : c.Unharmed) (n : String) :
    (c.stop n).2.1.CanWait ∧ (c.stop n).2.1.Unharmed := by
  rcases h.stop_cases n with ⟨-,hd⟩ | ⟨l,-,-,hd⟩
  · rw [hd]
    exact ⟨hw,hu⟩
  · rw [hd]
    exact ⟨hw,fun k hk => hu k (List.mem_of_mem_filter hk)⟩

/-- Among loops that have not crashed, every stop ends well. -/
theorem stop_ne_lost (h : c.Sound) (hu : c.Unharmed) (n : String) : (c.stop n).1 ≠ .lost := by
  cases hc : c.isCollecting n with
  | false =>
    rw [stop_notFound hc]
    simp
  | true =>
    obtain ⟨g,hg⟩ := Option.isSome_iff_exists.mp hc
    obtain ⟨l,hl,-,rfl⟩ := h.driven n g hg
    rcases h.atRest l hl with hp | hp
    · rw [h.stop_polling hl hp]
      simp
    · exact absurd hp (hu l hl)

end Sound

theorem loops_finish (c : Collector) (g : Nat)
    (h : ∀ l ∈ c.loops,l.phase = .cancelled ∨ l.phase = .crashed) :
    ((c.observe g).finish g).2 = c.forget g := by
  cases hl : c.loop? g with
  | none => rw [finish_unknown hl]
  | some l =>
    rcases h l (List.mem_of_find?_eq_some hl) with hp | hp
    · rw [finish_cancelled hl hp]
    · rw [finish_crashed hl hp]

theorem finishAll_eq (es : List (String × Nat)) (c : Collector)
    (h : ∀ l ∈ c.loops,l.phase = .cancelled ∨ l.phase = .crashed) :
    (finishAll es c).2.1 =
      { c with loops := c.loops.filter (fun l => l.generation ∉ es.map (·.2)) } := by
  induction es generalizing c with
  | nil => simp [finishAll]
  | cons e es ih =>
    obtain ⟨n,g⟩ := e
    -- Forgetting one loop leaves the phases of the others alone, which is all the induction needs.
    have hf := loops_finish c g h
    have hg : ∀ l ∈ (c.forget g).loops,l.phase = .cancelled ∨ l.phase = .crashed :=
      fun l hl => h l (List.mem_of_mem_filter hl)
    have hs : (finishAll ((n,g) :: es) c).2.1 = (finishAll es (c.forget g)).2.1 := by
      rcases ho : (c.observe g).finish g with ⟨o,d⟩
      have hd : d = c.forget g := by rw [ho] at hf; exact hf
      subst hd
      cases o <;> simp only [finishAll,ho]
    rw [hs,ih _ hg]
    simp only [forget,List.filter_filter,List.map_cons,List.mem_cons,not_or]
    congr 1
    apply List.filter_congr
    intro l _
    simp [Bool.and_comm]

theorem cancelAll_phase (h : c.Sound) :
    ∀ l ∈ c.cancelAll.loops,l.phase = .cancelled ∨ l.phase = .crashed := by
  intro l hl
  obtain ⟨l₀,hl₀,rfl⟩ := List.mem_map.mp hl
  rcases h.atRest l₀ hl₀ with hp | hp
  · simp [h.tied l₀ hl₀,hp]
  · simp [hp]

theorem Sound.stopAll_eq (h : c.Sound) : c.stopAll.2.1 = { c with entries := .empty, loops := [] } := by
  have hf := finishAll_eq c.entries.entries c.cancelAll (cancelAll_phase h)
  have hl : c.cancelAll.loops.filter
      (fun l => l.generation ∉ c.entries.entries.map (·.2)) = [] := by
    apply List.filter_eq_nil_iff.mpr
    intro l hl
    obtain ⟨l₀,hl₀,rfl⟩ := List.mem_map.mp hl
    have hm : (l₀.name,l₀.generation) ∈ c.entries.entries :=
      Table.mem_entries_iff.mpr (h.tied l₀ hl₀)
    have hg : l₀.generation ∈ c.entries.entries.map (·.2) := List.mem_map.mpr ⟨_,hm,rfl⟩
    split <;> simpa using hg
  rw [hl] at hf
  exact hf

end Collector

end HostMeter
