import HostMeter.Proofs.Collector.Landmarks
set_option autoImplicit false

/-! Loops that have outlived their entries. The entry of a name is that of the loop which was accepted
last, until the loop is called off or gives up. Whatever becomes of the loops before it, and however
late, they leave the entry alone. -/

namespace HostMeter

namespace Metering

namespace Deed

/-- The loops that are told to stop. -/
def signals : Deed → Collector → List Nat
  | .act (.cancel n),c => (c.entries.get? n).toList
  | .act .cancelAll,c => c.entries.values
  | .tell g,c => if (c.loop? g).any (c.entries.get? ·.name ≠ some g) then [g] else []
  | _,_ => []

end Deed

def signals : List Deed → Metering → List Nat
  | [],_ => []
  | x :: xs,b => x.signals b.collector++signals xs (b.perform x)

variable {b : Metering} {c d : Collector} {h : List Landmark} {g : Nat} {a : Act}

/-- A loop that is called off is told so at once, unless everything is stopped part by part. -/
theorem mem_signals_of_calledOff {xs : List Deed} (hx : .withdraw ∉ xs)
    (hg : .calledOff g ∈ landmarks xs b) : g ∈ signals xs b := by
  induction xs generalizing b with
  | nil => cases hg
  | cons x xs ih =>
    rcases List.mem_append.mp hg with hg | hg
    · refine List.mem_append_left _ ?_
      cases x with
      | withdraw => exact absurd List.mem_cons_self hx
      | tell g' => cases hg
      | act a =>
        cases a with
        | cancel n => simpa [Deed.landmarks,Deed.signals] using hg
        | cancelAll => simpa [Deed.landmarks,Deed.signals] using hg
        | collect i =>
          simp only [Deed.landmarks] at hg
          split at hg <;> simp at hg
        | release g' =>
          simp only [Deed.landmarks] at hg
          split at hg <;> simp at hg
        | supply | offer | cut | read | wait | observe | finish | tick => cases hg
    · exact List.mem_append_right _ (ih (fun h => hx (List.mem_cons_of_mem x h)) hg)

/-- Loops that have been told to stop poll no more. -/
structure Heeded (gs : List Nat) (c : Collector) : Prop where
  fresh : ∀ g ∈ gs,g < c.nextGeneration
  silent : ∀ l ∈ c.loops,l.generation ∈ gs → l.phase ≠ .polling

theorem setPhase_left {x y : Phase} {l : PollLoop} (hxy : y ≠ x) (hl : l.generation = g) :
    (Collector.setPhase g x y l).phase ≠ x := by
  unfold Collector.setPhase
  split
  · exact hxy
  · rename_i h
    exact fun hx => h ⟨hl,hx⟩

namespace Heeded

variable {gs gs' : List Nat}

theorem inherit (hs : Heeded gs c) (hi : Inherits c d) (hn : d.nextGeneration = c.nextGeneration) :
    Heeded gs d where
  fresh := hn ▸ hs.fresh
  silent l hl hg hp := by
    obtain ⟨k,hk,hkg,-,-,hkp⟩ := hi.origin l hl
    exact hs.silent k hk (hkg ▸ hg) (hkp hp)

theorem reshaped (hs : Heeded gs c) (h : Reshaped a c d) : Heeded gs d := by
  rcases h.inherits with ⟨hi,hn⟩ | ⟨l,hl,hls,hn⟩
  · exact hs.inherit hi hn
  · refine ⟨fun g hg => ?_,fun k hk hg => ?_⟩
    · rw [hn]
      exact Nat.lt_succ_of_lt (hs.fresh g hg)
    · rw [hls] at hk
      rcases List.mem_append.mp hk with hk | hk
      · exact hs.silent k hk hg
      · rw [List.mem_singleton.mp hk,hl] at hg
        exact absurd (hs.fresh _ hg) (Nat.lt_irrefl _)

theorem append (hs : Heeded gs c) (hs' : Heeded gs' c) : Heeded (gs++gs') c where
  fresh g hg := by
    rcases List.mem_append.mp hg with hg | hg
    · exact hs.fresh g hg
    · exact hs'.fresh g hg
  silent l hl hg := by
    rcases List.mem_append.mp hg with hg | hg
    · exact hs.silent l hl hg
    · exact hs'.silent l hl hg

theorem cancel (hc : Charted h c) (n : String) :
    Heeded (c.entries.get? n).toList (c.cancel n).2.1 := by
  cases hn : c.entries.get? n with
  | none => exact ⟨nofun,nofun⟩
  | some g =>
    rw [Collector.cancel_some hn]
    refine ⟨fun g' hg => ?_,fun l hl hg => ?_⟩
    · rw [List.mem_singleton.mp hg]
      exact hc.fresh _ (hc.entry_accepted hn)
    · obtain ⟨k,hk,rfl⟩ := List.mem_map.mp hl
      refine setPhase_left (by decide) ?_
      rw [← Collector.setPhase_generation]
      exact List.mem_singleton.mp hg

theorem cancelAll (hc : Charted h c) : Heeded c.entries.values c.cancelAll where
  fresh g hg := by
    obtain ⟨n,hn⟩ := Table.mem_values_iff.mp hg
    exact hc.fresh _ (hc.entry_accepted hn)
  silent l hl hg := by
    obtain ⟨k,hk,rfl⟩ := List.mem_map.mp hl
    by_cases h : c.entries.get? k.name = some k.generation ∧ k.phase = .polling
    · rw [if_pos h]
      nofun
    · rw [if_neg h] at hg ⊢
      exact fun hp => h ⟨(hc.mem_values_iff hk).mp hg,hp⟩

theorem tell (hc : Charted h c) (g : Nat) : Heeded (Deed.signals (.tell g) c) (c.tell g) := by
  cases hl : c.loop? g with
  | none =>
    simp only [Deed.signals,hl]
    exact ⟨nofun,nofun⟩
  | some l =>
    obtain rfl := Collector.generation_of_loop? hl
    have hm : l ∈ c.loops := List.mem_of_find?_eq_some hl
    by_cases he : c.entries.get? l.name = some l.generation
    · simp only [Deed.signals,hl,Option.any_some,he,ne_eq,not_true,decide_false]
      exact ⟨nofun,nofun⟩
    · simp only [Deed.signals,hl,Option.any_some,he,ne_eq,not_false_iff,decide_true,if_true]
      refine ⟨fun g hg => ?_,fun k hk hg => ?_⟩
      · rw [List.mem_singleton.mp hg]
        exact hc.fresh _ (hc.loops l hm)
      · obtain ⟨k,hm',rfl⟩ := List.mem_map.mp hk
        by_cases h : k.generation = l.generation ∧ c.entries.get? k.name ≠ some l.generation ∧
            k.phase = .polling
        · rw [if_pos h]
          nofun
        · rw [if_neg h] at hg ⊢
          have hg := List.mem_singleton.mp hg
          obtain rfl := hc.eq_of_generation hm' hm hg
          exact fun hp => h ⟨rfl,he,hp⟩

theorem take (hs : Heeded gs c) (hc : Charted h c) (x : Deed) :
    Heeded (gs++x.signals c) (x.take c).1 := by
  cases x with
  | withdraw => exact (List.append_nil gs).symm ▸ hs.inherit (inherits_same rfl) rfl
  | tell g => exact (hs.inherit (inherits_tell g c) rfl).append (.tell hc g)
  | act a =>
    have hd : Heeded gs (a.act c).1 := hs.reshaped (reshaped_act a c)
    cases a with
    | cancel n => exact hd.append (.cancel hc n)
    | cancelAll => exact hd.append (.cancelAll hc)
    | supply | collect | offer | cut | read | wait | observe | finish | release | tick =>
      exact (List.append_nil gs).symm ▸ hd

theorem performAll (hs : Heeded gs b.collector) (hc : Charted h b.collector) (xs : List Deed) :
    Heeded (gs++Metering.signals xs b) (performAll xs b).collector := by
  induction xs generalizing h gs b with
  | nil => exact (List.append_nil gs).symm ▸ hs
  | cons x xs ih =>
    have hr := ih (b := b.perform x) (hs.take hc x) (hc.take x)
    rw [List.append_assoc] at hr
    exact hr

end Heeded

theorem performAll_acts (acts : List Act) (b : Metering) :
    performAll (acts.map .act) b = run acts b := List.foldl_map

theorem foldl_tell (gs : List Nat) (he : c.entries = .empty) :
    gs.foldl (fun c g => c.tell g) c =
      { c with
        loops := c.loops.map fun l =>
          if l.generation ∈ gs ∧ l.phase = .polling then { l with phase := .cancelled } else l } := by
  induction gs generalizing c with
  | nil => simp
  | cons g gs ih =>
    have ht : c.tell g = { c with loops := c.loops.map (Collector.setPhase g .polling .cancelled) } := by
      have hl : ∀ l : PollLoop,(l.generation = g ∧ c.entries.get? l.name ≠ some g ∧ l.phase = .polling) ↔
          (l.generation = g ∧ l.phase = .polling) := fun l => by simp [he]
      simp only [Collector.tell,hl]
      rfl
    rw [List.foldl_cons,ih (c := c.tell g) he,ht]
    simp only [List.map_map]
    congr 1
    apply List.map_congr_left
    intro l _
    by_cases hg : l.generation = g <;> by_cases hp : l.phase = .polling <;>
      simp [Collector.setPhase,hg,hp]

/-- Once every loop has been told that has lost its entry, all is as after a stop of everything at once. -/
theorem performAll_parts (hc : Charted h b.collector) :
    performAll (.withdraw :: b.collector.entries.values.map .tell) b = b.step .cancelAll := by
  have htell : ∀ (gs : List Nat) (b : Metering),performAll (gs.map .tell) b =
      ⟨gs.foldl (fun c g => c.tell g) b.collector,b.metrics⟩ := by
    intro gs
    induction gs with
    | nil => exact fun b => rfl
    | cons g gs ih => exact fun b => ih (b.perform (.tell g))
  have hloops : b.collector.withdraw.loops.map (fun l =>
        if l.generation ∈ b.collector.entries.values ∧ l.phase = .polling
        then { l with phase := .cancelled } else l) = b.collector.cancelAll.loops := by
    apply List.map_congr_left
    intro l hl
    simp only [hc.mem_values_iff hl]
  calc performAll (.withdraw :: b.collector.entries.values.map .tell) b
      = ⟨b.collector.entries.values.foldl (fun c g => c.tell g) b.collector.withdraw,
          (b.perform .withdraw).metrics⟩ := htell _ (b.perform .withdraw)
    _ = b.step .cancelAll := by
      rw [foldl_tell _ rfl,hloops]
      rfl

/-- Neither called off nor over. While everything is being stopped part by part, a loop can have been called
off and poll on, for nobody has told it yet. -/
def Lives (h : List Landmark) (l : PollLoop) : Prop :=
  .calledOff l.generation ∉ h ∧ l.phase ≠ .ended

/-- Neither told to stop nor over. -/
def Goes (gs : List Nat) (l : PollLoop) : Prop := l.generation ∉ gs ∧ l.phase ≠ .ended

theorem Charted.entry_of_lives {l : PollLoop} (hc : Charted h c) (hl : l ∈ c.loops) (hv : Lives h l) :
    c.entries.get? l.name = some l.generation :=
  (hc.entry _ _).mpr ⟨hc.loops l hl,hv.1,fun hu => hv.2 (hc.spent l hl hu)⟩

/-- What the release of one loop leaves alone: all but the loop itself. -/
structure Spared (g : Nat) (b d : Metering) : Prop where
  entries : d.collector.entries = b.collector.entries
  metrics : d.metrics = b.metrics
  channels : d.collector.channels = b.collector.channels
  others : ∀ k : PollLoop,k.generation ≠ g → (k ∈ d.collector.loops ↔ k ∈ b.collector.loops)

theorem mem_setPhase {k : PollLoop} {ls : List PollLoop} {x y : Phase} (hk : k.generation ≠ g) :
    k ∈ ls.map (Collector.setPhase g x y) ↔ k ∈ ls := by
  rw [List.mem_map]
  constructor
  · rintro ⟨l,hl,rfl⟩
    rw [Collector.setPhase_generation] at hk
    rw [Collector.setPhase_of_ne hk]
    exact hl
  · exact fun hl => ⟨k,hl,Collector.setPhase_of_ne hk⟩

theorem spared_release (he : ∀ l,b.collector.loop? g = some l →
    b.collector.entries.get? l.name ≠ some g) : Spared g b (b.step (.release g)) := by
  rcases b.collector.release_cases g with hd | ⟨l,hl,-,⟨hn,-⟩ | ⟨-,hd⟩⟩
  · have hs : b.step (.release g) = b := congrArg b.adopt hd
    rw [hs]
    exact ⟨rfl,rfl,rfl,fun _ _ => Iff.rfl⟩
  · exact absurd hn (he l hl)
  · have hs : b.step (.release g) =
        b.adopt ({ b.collector with
          loops := b.collector.loops.map (Collector.setPhase g .leaving .ended) },[]) :=
      congrArg b.adopt hd
    rw [hs]
    exact ⟨rfl,rfl,rfl,fun _ hk => mem_setPhase hk⟩

/-- However starts, stops, stops of everything and the steps of loops follow each other: of one name at
most one loop lives. Unless everything is stopped part by part, this is the only one that has neither been
told to stop nor ended; in between the two parts one that has been called off polls on beside its successor,
but none that has been told does. The entry of the name is that of the loop accepted last, as long as it
has neither been called off nor given up; and a loop without the entry spares whatever has come after it. -/
theorem successor_untouched (rateMs places : Nat) (m : Metrics) (xs : List Deed) :
    let b := ofSettings rateMs places m
    let h := landmarks xs b
    let gs := signals xs b
    let d := performAll xs b
    (∀ k ∈ d.collector.loops,∀ l ∈ d.collector.loops,k.name = l.name → Lives h k → Lives h l → k = l) ∧
      (.withdraw ∉ xs → ∀ k ∈ d.collector.loops,∀ l ∈ d.collector.loops,k.name = l.name →
        Goes gs k → Goes gs l → k = l) ∧
      (∀ l ∈ d.collector.loops,l.generation ∈ gs → l.phase ≠ .polling) ∧
      (∀ n g,d.collector.entries.get? n = some g ↔
        .accepted n g ∈ h ∧ .calledOff g ∉ h ∧ .gaveUp g ∉ h) ∧
      (∀ n g g',d.collector.entries.get? n = some g → .accepted n g' ∈ h → g' ≤ g) ∧
      ∀ l ∈ d.collector.loops,d.collector.entries.get? l.name ≠ some l.generation →
        Spared l.generation d (d.step (.release l.generation)) := by
  intro b h gs d
  have hc₀ : Charted [] b.collector := charted_ofSettings rateMs places
  have hc : Charted h d.collector := charted_performAll hc₀ xs
  have hs₀ : Heeded [] b.collector := ⟨nofun,nofun⟩
  have hs : Heeded gs d.collector := hs₀.performAll hc₀ xs
  have hone : ∀ k ∈ d.collector.loops,∀ l ∈ d.collector.loops,k.name = l.name → Lives h k →
      Lives h l → k = l := by
    intro k hk l hl hn hvk hvl
    have hek := hc.entry_of_lives hk hvk
    have hel := hc.entry_of_lives hl hvl
    rw [hn,hel] at hek
    exact hc.eq_of_generation hk hl (Option.some.inj hek).symm
  refine ⟨hone,?_,hs.silent,hc.entry,hc.latest,?_⟩
  · intro hx k hk l hl hn hgk hgl
    have hlives : ∀ l,Goes gs l → Lives h l := fun l hg =>
      ⟨fun ho => hg.1 (mem_signals_of_calledOff hx ho),hg.2⟩
    exact hone k hk l hl hn (hlives k hgk) (hlives l hgl)
  · intro l hl he
    refine spared_release fun k hk => ?_
    have hg := Collector.generation_of_loop? hk
    obtain rfl := hc.eq_of_generation (List.mem_of_find?_eq_some hk) hl hg
    exact he

def restarted : List Deed :=
  [.act (.supply { name := "web" } 4),.act (.collect 0),.act (.cut 0),.act (.tick 7 0),.withdraw,
    .tell 0,.act (.supply { name := "web" } 4),.act (.collect 1)]

/-- Its release comes late, and finds another loop's entry. -/
theorem successor_untouched_restarted :
    let d := performAll restarted (ofSettings 100 8 {})
    ⟨"web",0,0,200,.leaving⟩ ∈ d.collector.loops ∧ d.collector.entries.get? "web" = some 1 ∧
      .accepted "web" 1 ∈ landmarks restarted (ofSettings 100 8 {}) ∧
      Spared 0 d (d.step (.release 0)) := by
  obtain ⟨-,-,-,hentry,-,hlate⟩ := successor_untouched 100 8 {} restarted
  have he : (performAll restarted (ofSettings 100 8 {})).collector.entries.get? "web" = some 1 := by
    decide
  exact ⟨by decide,he,((hentry "web" 1).mp he).1,hlate ⟨"web",0,0,200,.leaving⟩ (by decide) (by decide)⟩

/-- Collected again between the two parts of a stop of everything. -/
example : (performAll [.act (.supply { name := "web" } 4),.act (.collect 0),.withdraw,
    .act (.supply { name := "web" } 4),.act (.collect 1)] (ofSettings 100 8 {})).collector.loops.map
      (fun l => (l.name,l.phase)) = [("web",.polling),("web",.polling)] := by decide

end Metering

end HostMeter
