import HostMeter.Proofs.Collector.Changes
import HostMeter.Proofs.Collector.Stop
set_option autoImplicit false

/-! What becomes of the loops that a collector accepts. A loop has the entry of its name until it is called
off or gives up, and no other loop is accepted under the name meanwhile. -/

namespace HostMeter

namespace Collector

/-- The first half of a stop of everything: all entries are taken away, and no loop knows yet. -/
def withdraw (c : Collector) : Collector := { c with entries := .empty }

def tell (g : Nat) (c : Collector) : Collector :=
  { c with
    loops := c.loops.map fun l =>
      if l.generation = g ∧ c.entries.get? l.name ≠ some g ∧ l.phase = .polling
      then { l with phase := .cancelled } else l }

end Collector

namespace Metering

/-- An act around a collector, or a part of a stop of everything, which tells its loops one by one. -/
inductive Deed
  | act (a : Act)
  | withdraw
  | tell (g : Nat)
  deriving DecidableEq, Repr

inductive Landmark
  | accepted (name : String) (g : Nat)
  /-- A stop has taken the entry of the loop away. It tells the loop so in the same breath, unless it
  stops everything part by part. -/
  | calledOff (g : Nat)
  | gaveUp (g : Nat)
  deriving DecidableEq, Repr

def Landmark.generation : Landmark → Nat
  | .accepted _ g => g
  | .calledOff g => g
  | .gaveUp g => g

namespace Deed

def take : Deed → Collector → Collector × Collector.Effects
  | .act a,c => a.act c
  | .withdraw,c => (c.withdraw,[.removed 0])
  | .tell g,c => (c.tell g,[])

def landmarks : Deed → Collector → List Landmark
  | .act (.collect i),c =>
    if i < c.channels.next ∧ (c.collect i).1 then [.accepted (c.channels.name i) c.nextGeneration] else []
  | .act (.cancel n),c => (c.entries.get? n).toList.map .calledOff
  | .act .cancelAll,c => c.entries.values.map .calledOff
  | .act (.release g),c => if (c.loop? g).any (·.phase = .leaving) then [.gaveUp g] else []
  | .withdraw,c => c.entries.values.map .calledOff
  | _,_ => []

end Deed

def perform (x : Deed) (b : Metering) : Metering := b.adopt (x.take b.collector)

def performAll (xs : List Deed) (b : Metering) : Metering := xs.foldl (fun b x => b.perform x) b

def landmarks : List Deed → Metering → List Landmark
  | [],_ => []
  | x :: xs,b => x.landmarks b.collector++landmarks xs (b.perform x)

variable {a : Act} {b : Metering} {c d : Collector} {h : List Landmark} {g : Nat} {n : String}

/-- No loop is new, none changes its name, and none that has ended or polls no more comes back. -/
structure Inherits (c d : Collector) : Prop where
  sublist : (d.loops.map (·.generation)).Sublist (c.loops.map (·.generation))
  origin : ∀ l ∈ d.loops,∃ k ∈ c.loops,k.generation = l.generation ∧ k.name = l.name ∧
    (k.phase = .ended → l.phase = .ended) ∧ (l.phase = .polling → k.phase = .polling)

theorem inherits_map {f : PollLoop → PollLoop} (hl : d.loops = c.loops.map f)
    (hf : ∀ l,(f l).generation = l.generation ∧ (f l).name = l.name ∧
      (l.phase = .ended → (f l).phase = .ended) ∧ ((f l).phase = .polling → l.phase = .polling)) :
    Inherits c d where
  sublist := by
    have hg : (fun l : PollLoop => l.generation) ∘ f = fun l => l.generation :=
      funext fun l => (hf l).1
    rw [hl,List.map_map,hg]
  origin := by
    intro l hm
    rw [hl] at hm
    obtain ⟨k,hk,rfl⟩ := List.mem_map.mp hm
    exact ⟨k,hk,(hf k).1.symm,(hf k).2.1.symm,(hf k).2.2⟩

theorem inherits_same (hl : d.loops = c.loops) : Inherits c d :=
  inherits_map (f := id) (by rw [hl,List.map_id]) fun _ => ⟨rfl,rfl,id,id⟩

theorem inherits_filter {p : PollLoop → Bool} (hl : d.loops = c.loops.filter p) : Inherits c d where
  sublist := by
    rw [hl]
    exact List.filter_sublist.map _
  origin := by
    intro l hm
    rw [hl] at hm
    exact ⟨l,List.mem_of_mem_filter hm,rfl,rfl,id,id⟩

theorem inherits_setPhase {x y : Phase} (hx : x ≠ .ended) (hy : y ≠ .polling)
    (hl : d.loops = c.loops.map (Collector.setPhase g x y)) : Inherits c d := by
  refine inherits_map hl fun l => ?_
  obtain ⟨hg,-,hn⟩ := setPhase_fields g x y l
  refine ⟨hg,hn,?_⟩
  by_cases h : l.generation = g ∧ l.phase = x
  · rw [Collector.setPhase,if_pos h]
    exact ⟨fun he => absurd (h.2.symm.trans he) hx,fun hp => absurd hp hy⟩
  · rw [Collector.setPhase,if_neg h]
    exact ⟨id,id⟩

theorem inherits_cancelled {f : PollLoop → PollLoop} (hl : d.loops = c.loops.map f)
    (hf : ∀ l,f l = l ∨ l.phase = .polling ∧ f l = { l with phase := .cancelled }) : Inherits c d := by
  refine inherits_map hl fun l => ?_
  rcases hf l with h | ⟨hp,h⟩ <;> rw [h]
  · exact ⟨rfl,rfl,id,id⟩
  · rw [hp]
    exact ⟨rfl,rfl,nofun,nofun⟩

theorem inherits_cancelAll (c : Collector) : Inherits c c.cancelAll := by
  refine inherits_cancelled rfl fun l => ?_
  split
  · rename_i h
    exact .inr ⟨h.2,rfl⟩
  · exact .inl rfl

theorem inherits_tell (g : Nat) (c : Collector) : Inherits c (c.tell g) := by
  refine inherits_cancelled rfl fun l => ?_
  split
  · rename_i h
    exact .inr ⟨h.2.2,rfl⟩
  · exact .inl rfl

theorem happens_started {i : ChannelId} (h : a.happens c = [.started g i]) : ∃ j,a = .collect j := by
  cases a with
  | collect j => exact ⟨j,rfl⟩
  | offer j u =>
    simp only [Act.happens] at h
    split at h <;> cases h
  | read =>
    simp only [Act.happens] at h
    split at h <;> cases h
  | tick clock g' =>
    simp only [Act.happens] at h
    cases hr : c.reading? clock g' <;> rw [hr] at h <;> cases h
  | supply | cut | wait | cancel | cancelAll | observe | finish | release => cases h

theorem inherits_mapped {f : PollLoop → PollLoop} (hl : d.loops = c.loops.map f)
    (hf : ∀ l,(f l).generation = l.generation ∧ (f l).channel = l.channel ∧ (f l).name = l.name)
    (hp : ∀ l,(f l).phase = l.phase ∨ l.phase = .cancelled ∧ (f l).phase = .ended ∨
      a.isTick l.generation = true ∧ l.phase = .polling ∧ (f l).phase = .leaving ∨
        a.isRelease l.generation = true ∧ l.phase = .leaving ∧ (f l).phase = .ended) :
    Inherits c d := by
  refine inherits_map hl fun l => ⟨(hf l).1,(hf l).2.2,?_⟩
  rcases hp l with h | ⟨-,h⟩ | ⟨-,hpol,h⟩ | ⟨-,-,h⟩ <;> rw [h]
  · exact ⟨id,id⟩
  · exact ⟨fun _ => rfl,nofun⟩
  · rw [hpol]
    exact ⟨nofun,fun _ => rfl⟩
  · exact ⟨fun _ => rfl,nofun⟩

theorem Reshaped.inherits (h : Reshaped a c d) :
    Inherits c d ∧ d.nextGeneration = c.nextGeneration ∨
      ∃ l : PollLoop,l.generation = c.nextGeneration ∧ d.loops = c.loops++[l] ∧
        d.nextGeneration = c.nextGeneration+1 := by
  cases h with
  | kept he hl hn => exact .inl ⟨inherits_same hl,hn⟩
  | mapped f hf hp he hl hn => exact .inl ⟨inherits_mapped hl hf hp,hn⟩
  | started i hi hst hc he hl hn => exact .inr ⟨_,rfl,hl,hn⟩
  | cancelled m g hst hg he hl hn =>
    exact .inl ⟨inherits_setPhase (by decide) (by decide) hl,hn⟩
  | cancelledAll hst hd =>
    subst hd
    exact .inl ⟨inherits_cancelAll c,rfl⟩
  | forgotten l g hl hp he hls hn => exact .inl ⟨inherits_filter hls,hn⟩
  | released l g hst hg hp hn he hls hn => exact .inl ⟨inherits_filter hls,hn⟩

theorem Reshaped.quiet (h : Reshaped a c d) (hc : ∀ i,a ≠ .collect i) (hs : ∀ n,a.isStop n = false)
    (hr : ∀ g,a.isRelease g = false) :
    Inherits c d ∧ d.entries = c.entries ∧ d.nextGeneration = c.nextGeneration := by
  cases h with
  | kept he hl hn => exact ⟨inherits_same hl,he,hn⟩
  | mapped f hf hp he hl hn => exact ⟨inherits_mapped hl hf hp,he,hn⟩
  | started i hi hst =>
    obtain ⟨j,rfl⟩ := happens_started hst
    exact absurd rfl (hc j)
  | cancelled m g hst =>
    rw [hs m] at hst
    cases hst
  | cancelledAll hst =>
    have := hst ""
    rw [hs] at this
    cases this
  | forgotten l g hl hp he hls hn => exact ⟨inherits_filter hls,he,hn⟩
  | released l g hst =>
    rw [hr g] at hst
    cases hst

/-- The landmarks so far agree with the entries and the loops there are. -/
structure Charted (h : List Landmark) (c : Collector) : Prop where
  fresh : ∀ x ∈ h,x.generation < c.nextGeneration
  single : ∀ n n' g,.accepted n g ∈ h → .accepted n' g ∈ h → n = n'
  entry : ∀ n g,c.entries.get? n = some g ↔ .accepted n g ∈ h ∧ .calledOff g ∉ h ∧ .gaveUp g ∉ h
  latest : ∀ n g g',c.entries.get? n = some g → .accepted n g' ∈ h → g' ≤ g
  distinct : (c.loops.map (·.generation)).Nodup
  loops : ∀ l ∈ c.loops,.accepted l.name l.generation ∈ h
  spent : ∀ l ∈ c.loops,.gaveUp l.generation ∈ h → l.phase = .ended

theorem charted_ofSettings (rateMs places : Nat) : Charted [] (.ofSettings rateMs places) where
  fresh _ hx := by cases hx
  single _ _ _ hx := by cases hx
  entry n g := by simp [Collector.ofSettings]
  latest _ _ _ _ hx := by cases hx
  distinct := .nil
  loops _ hl := by cases hl
  spent _ hl := by cases hl

namespace Charted

variable {l : PollLoop} {i : ChannelId}

theorem entry_accepted (hc : Charted h c) (he : c.entries.get? n = some g) : .accepted n g ∈ h :=
  ((hc.entry n g).mp he).1

theorem name_eq (hc : Charted h c) {n' : String} (he : c.entries.get? n = some g)
    (he' : c.entries.get? n' = some g) : n = n' :=
  hc.single n n' g (hc.entry_accepted he) (hc.entry_accepted he')

theorem loops_inherit (hc : Charted h c) (hd : Inherits c d) :
    (d.loops.map (·.generation)).Nodup ∧ (∀ l ∈ d.loops,.accepted l.name l.generation ∈ h) ∧
      ∀ l ∈ d.loops,.gaveUp l.generation ∈ h → l.phase = .ended := by
  refine ⟨hc.distinct.sublist hd.sublist,?_,?_⟩
  · intro l hl
    obtain ⟨k,hk,hg,hn,-⟩ := hd.origin l hl
    rw [← hg,← hn]
    exact hc.loops k hk
  · intro l hl hu
    obtain ⟨k,hk,hg,-,hp,-⟩ := hd.origin l hl
    rw [← hg] at hu
    exact hp (hc.spent k hk hu)

theorem quiet (hc : Charted h c)
    (hd : Inherits c d ∧ d.entries = c.entries ∧ d.nextGeneration = c.nextGeneration) :
    Charted h d := by
  obtain ⟨hi,he,hn⟩ := hd
  obtain ⟨hdis,hloops,hover⟩ := hc.loops_inherit hi
  refine ⟨?_,hc.single,?_,?_,hdis,hloops,hover⟩
  · rw [hn]
    exact hc.fresh
  · rw [he]
    exact hc.entry
  · rw [he]
    exact hc.latest

theorem older (hc : Charted h c) {x : Landmark} (hx : x ∈ h) : x.generation ≠ c.nextGeneration :=
  Nat.ne_of_lt (hc.fresh x hx)

theorem single_accepted (hc : Charted h c) {name n' : String}
    (hx : .accepted n g ∈ h++[.accepted name c.nextGeneration])
    (hx' : .accepted n' g ∈ h++[.accepted name c.nextGeneration]) : n = n' := by
  rcases List.mem_append.mp hx with hold | hnew <;> rcases List.mem_append.mp hx' with hold' | hnew'
  · exact hc.single n n' g hold hold'
  · cases List.mem_singleton.mp hnew'
    have hne := hc.older hold
    exact absurd rfl hne
  · cases List.mem_singleton.mp hnew
    have hne := hc.older hold'
    exact absurd rfl hne
  · cases List.mem_singleton.mp hnew
    cases List.mem_singleton.mp hnew'
    rfl

theorem entry_accepted_new (hc : Charted h c) (hn : c.entries.get? n = none) :
    c.nextGeneration = g ↔ .accepted n g ∈ h++[.accepted n c.nextGeneration] ∧
      .calledOff g ∉ h++[.accepted n c.nextGeneration] ∧
      .gaveUp g ∉ h++[.accepted n c.nextGeneration] := by
  constructor
  · rintro rfl
    refine ⟨by simp,?_,?_⟩
    · intro hx
      exact hc.older (x := .calledOff c.nextGeneration) (by simpa using hx) rfl
    · intro hx
      exact hc.older (x := .gaveUp c.nextGeneration) (by simpa using hx) rfl
  · rintro ⟨hx,hoff,hup⟩
    rcases List.mem_append.mp hx with hx | hx
    · have hent := (hc.entry n g).mpr ⟨hx,by simpa using hoff,by simpa using hup⟩
      rw [hn] at hent
      cases hent
    · cases List.mem_singleton.mp hx
      rfl

/-- A loop is accepted under a name without an entry: all loops of that name before it have been called
off or have given up. -/
theorem begin (hc : Charted h c) (hn : c.entries.get? l.name = none)
    (hg : l.generation = c.nextGeneration) (he : d.entries = c.entries.insert l.name l.generation)
    (hl : d.loops = c.loops++[l]) (hd : d.nextGeneration = c.nextGeneration+1) :
    Charted (h++[.accepted l.name l.generation]) d where
  fresh x hx := by
    rw [hd]
    rcases List.mem_append.mp hx with hx | hx
    · exact Nat.lt_succ_of_lt (hc.fresh x hx)
    · rw [List.mem_singleton.mp hx]
      exact Nat.lt_succ_of_le (Nat.le_of_eq hg)
  single n n' g hx hx' := by
    rw [hg] at hx hx'
    exact hc.single_accepted hx hx'
  entry n g := by
    rw [he,hg,Table.get?_insert]
    by_cases hname : n = l.name
    · subst hname
      rw [if_pos rfl,Option.some.injEq]
      exact hc.entry_accepted_new hn
    · rw [if_neg hname,hc.entry n g]
      simp [hname]
  latest n g g' hx hx' := by
    rw [he,Table.get?_insert] at hx
    by_cases hname : n = l.name
    · rw [if_pos hname] at hx
      cases hx
      rcases List.mem_append.mp hx' with hx' | hx'
      · rw [hg]
        exact Nat.le_of_lt (hc.fresh _ hx')
      · cases List.mem_singleton.mp hx'
        exact Nat.le_refl _
    · rw [if_neg hname] at hx
      exact hc.latest n g g' hx (by simpa [hname] using hx')
  distinct := by
    rw [hl,List.map_append]
    refine List.nodup_append.mpr ⟨hc.distinct,by simp,?_⟩
    intro x hx y hy
    obtain ⟨k,hk,rfl⟩ := List.mem_map.mp hx
    have hy : y = l.generation := by simpa using hy
    rw [hy,hg]
    exact hc.older (hc.loops k hk)
  loops k hk := by
    rw [hl] at hk
    rcases List.mem_append.mp hk with hk | hk
    · exact List.mem_append_left _ (hc.loops k hk)
    · rw [List.mem_singleton.mp hk]
      simp
  spent k hk hu := by
    have hu : .gaveUp k.generation ∈ h := by simpa using hu
    rw [hl] at hk
    rcases List.mem_append.mp hk with hk | hk
    · exact hc.spent k hk hu
    · rw [List.mem_singleton.mp hk,hg] at hu
      exact absurd rfl (hc.older hu)

theorem callOff (hc : Charted h c) (hi : Inherits c d) {gs : List Nat}
    (hgs : ∀ g,g ∈ gs ↔ ∃ n,c.entries.get? n = some g ∧ d.entries.get? n = none)
    (he : ∀ n,d.entries.get? n = none ∨ d.entries.get? n = c.entries.get? n)
    (hn : d.nextGeneration = c.nextGeneration) : Charted (h++gs.map .calledOff) d := by
  obtain ⟨hdis,hloops,hover⟩ := hc.loops_inherit hi
  have hmem : ∀ x : Landmark,(∀ g,x ≠ .calledOff g) → (x ∈ h++gs.map .calledOff ↔ x ∈ h) := by
    intro x hx
    rw [List.mem_append,or_iff_left]
    intro hm
    obtain ⟨g,-,rfl⟩ := List.mem_map.mp hm
    exact hx g rfl
  have hentry : ∀ n g,d.entries.get? n = some g →
      c.entries.get? n = some g := by
    intro n g hd
    rcases he n with h | h
    · rw [hd] at h
      cases h
    · exact h ▸ hd
  refine ⟨?_,?_,?_,?_,hdis,?_,?_⟩
  · intro x hx
    rw [hn]
    rcases List.mem_append.mp hx with hx | hx
    · exact hc.fresh x hx
    · obtain ⟨g,hg,rfl⟩ := List.mem_map.mp hx
      obtain ⟨n,hc',-⟩ := (hgs g).mp hg
      have hlt := hc.fresh _ (hc.entry_accepted hc')
      exact hlt
  · intro n n' g hx hx'
    exact hc.single n n' g ((hmem _ (by simp)).mp hx) ((hmem _ (by simp)).mp hx')
  · intro n g
    rw [hmem _ (by simp),hmem (.gaveUp g) (by simp),List.mem_append,not_or]
    have hoff : .calledOff g ∈ gs.map Landmark.calledOff ↔ g ∈ gs := by simp
    rw [hoff,hgs g]
    constructor
    · intro hd
      obtain ⟨hx,hno,hup⟩ := (hc.entry n g).mp (hentry n g hd)
      refine ⟨hx,⟨hno,?_⟩,hup⟩
      rintro ⟨m,hm,hgone⟩
      rw [hc.name_eq hm (hentry n g hd),hd] at hgone
      cases hgone
    · rintro ⟨hx,⟨hno,hkept⟩,hup⟩
      have hent := (hc.entry n g).mpr ⟨hx,hno,hup⟩
      rcases he n with h | h
      · exact absurd ⟨n,hent,h⟩ hkept
      · rw [h]
        exact hent
  · intro n g g' hd hx
    exact hc.latest n g g' (hentry n g hd) ((hmem _ (by simp)).mp hx)
  · intro l hl
    exact (hmem _ (by simp)).mpr (hloops l hl)
  · intro l hl hu
    exact hover l hl ((hmem _ (by simp)).mp hu)

theorem giveUp (hc : Charted h c) (hi : Inherits c d) (hl : l ∈ c.loops)
    (he : ∀ n,d.entries.get? n = if c.entries.get? n = some l.generation then none else c.entries.get? n)
    (ho : ∀ k ∈ d.loops,k.generation = l.generation → k.phase = .ended)
    (hn : d.nextGeneration = c.nextGeneration) : Charted (h++[.gaveUp l.generation]) d := by
  obtain ⟨hdis,hloops,hover⟩ := hc.loops_inherit hi
  have hentry : ∀ n g,d.entries.get? n = some g ↔ c.entries.get? n = some g ∧ g ≠ l.generation := by
    intro n g
    rw [he n]
    split
    · rename_i hown
      constructor
      · intro h
        cases h
      · rintro ⟨hg,hne⟩
        rw [hown] at hg
        exact absurd (Option.some.inj hg).symm hne
    · rename_i hown
      constructor
      · intro hg
        refine ⟨hg,?_⟩
        rintro rfl
        exact hown hg
      · exact fun h => h.1
  refine ⟨?_,?_,?_,?_,hdis,?_,?_⟩
  · intro x hx
    rw [hn]
    rcases List.mem_append.mp hx with hx | hx
    · exact hc.fresh x hx
    · rw [List.mem_singleton.mp hx]
      have hlt := hc.fresh _ (hc.loops l hl)
      exact hlt
  · intro n n' g hx hx'
    exact hc.single n n' g (by simpa using hx) (by simpa using hx')
  · intro n g
    rw [hentry,hc.entry n g]
    simp [and_assoc]
  · intro n g g' hd hx
    exact hc.latest n g g' ((hentry n g).mp hd).1 (by simpa using hx)
  · intro k hk
    exact List.mem_append_left _ (hloops k hk)
  · intro k hk hu
    rcases List.mem_append.mp hu with hu | hu
    · exact hover k hk hu
    · have hg : k.generation = l.generation := by simpa using List.mem_singleton.mp hu
      exact ho k hk hg

theorem cancelAll (hc : Charted h c) : Charted (h++c.entries.values.map .calledOff) c.cancelAll := by
  refine hc.callOff (inherits_cancelAll c) ?_ (fun n => .inl rfl) rfl
  intro g
  rw [Table.mem_values_iff]
  exact exists_congr fun n => (and_iff_left rfl).symm

theorem withdraw (hc : Charted h c) : Charted (h++c.entries.values.map .calledOff) c.withdraw := by
  have hi : Inherits c c.withdraw := inherits_same rfl
  refine hc.callOff hi ?_ (fun n => .inl rfl) rfl
  intro g
  rw [Table.mem_values_iff]
  exact exists_congr fun n => (and_iff_left rfl).symm

theorem cancel (hc : Charted h c) (n : String) :
    Charted (h++(c.entries.get? n).toList.map .calledOff) (c.cancel n).2.1 := by
  cases hn : c.entries.get? n with
  | none =>
    rw [Collector.cancel_none hn,Option.toList_none,List.map_nil,List.append_nil]
    exact hc
  | some g =>
    rw [Collector.cancel_some hn]
    refine hc.callOff (inherits_setPhase (by decide) (by decide) rfl) ?_ ?_ rfl
    · intro g'
      simp only [Option.toList_some,List.mem_singleton,Table.get?_erase]
      constructor
      · rintro rfl
        exact ⟨n,hn,if_pos rfl⟩
      · rintro ⟨m,hm,hgone⟩
        by_cases hmn : m = n
        · subst hmn
          exact Option.some.inj (hm.symm.trans hn)
        · rw [if_neg hmn,hm] at hgone
          cases hgone
    · intro m
      rw [Table.get?_erase]
      split
      · exact .inl rfl
      · exact .inr rfl

theorem collect (hc : Charted h c) (i : ChannelId) :
    Charted (h++Deed.landmarks (.act (.collect i)) c) ((Act.collect i).act c).1 := by
  by_cases hi : i < c.channels.next
  · have hd : ((Act.collect i).act c).1 = (c.collect i).2.1 := by simp [Act.act,hi]
    rw [hd]
    cases hn : c.isCollecting (c.channels.name i) with
    | true =>
      have hx : Deed.landmarks (.act (.collect i)) c = [] := by
        simp [Deed.landmarks,Collector.collect_refused hn]
      rw [hx,List.append_nil,Collector.collect_refused hn]
      exact hc.quiet ⟨inherits_same rfl,rfl,rfl⟩
    | false =>
      have hx : Deed.landmarks (.act (.collect i)) c =
          [.accepted (c.channels.name i) c.nextGeneration] := by
        simp [Deed.landmarks,hi,Collector.collect_started hn]
      have hnone : c.entries.get? (c.channels.name i) = none := by
        simpa [Collector.isCollecting,Table.contains] using hn
      rw [hx,Collector.collect_started hn]
      exact hc.begin (l := c.freshLoop (c.channels.name i) i) hnone rfl rfl rfl rfl
  · have hd : ((Act.collect i).act c).1 = c := by simp [Act.act,hi]
    have hx : Deed.landmarks (.act (.collect i)) c = [] := by simp [Deed.landmarks,hi]
    rw [hd,hx,List.append_nil]
    exact hc

theorem eq_of_generation (hc : Charted h c) {k : PollLoop} (hk : k ∈ c.loops) (hl : l ∈ c.loops)
    (hg : k.generation = l.generation) : k = l := List.inj_on_of_nodup_map hc.distinct hk hl hg

theorem mem_values_iff (hc : Charted h c) (hl : l ∈ c.loops) :
    l.generation ∈ c.entries.values ↔ c.entries.get? l.name = some l.generation := by
  rw [Table.mem_values_iff]
  constructor
  · rintro ⟨n,hn⟩
    obtain rfl := hc.single n l.name l.generation (hc.entry_accepted hn) (hc.loops l hl)
    exact hn
  · exact fun hn => ⟨l.name,hn⟩

theorem release (hc : Charted h c) (g : Nat) :
    Charted (h++Deed.landmarks (.act (.release g)) c) (c.release g).1 := by
  cases hl : c.loop? g with
  | none =>
    have hx : Deed.landmarks (.act (.release g)) c = [] := by simp [Deed.landmarks,hl]
    have hd : c.release g = (c,[]) := by simp [Collector.release,hl]
    rw [hx,hd,List.append_nil]
    exact hc
  | some l =>
    obtain rfl := Collector.generation_of_loop? hl
    have hmem : l ∈ c.loops := List.mem_of_find?_eq_some hl
    by_cases hp : l.phase = .leaving
    · have hx : Deed.landmarks (.act (.release l.generation)) c = [.gaveUp l.generation] := by
        simp [Deed.landmarks,hl,hp]
      have hown : ∀ n,c.entries.get? n = some l.generation → n = l.name := fun n hn =>
        hc.single n l.name l.generation (hc.entry_accepted hn) (hc.loops l hmem)
      rw [hx]
      by_cases he : c.entries.get? l.name = some l.generation
      · have hd : (c.release l.generation).1 =
            { c.forget l.generation with
              entries := c.entries.erase l.name
              channels := c.channels.close l.channel } := by
          simp [Collector.release,hl,hp,he]
        rw [hd]
        refine hc.giveUp (inherits_filter rfl) hmem ?_ ?_ rfl
        · intro n
          rw [Table.get?_erase]
          by_cases hn : n = l.name
          · subst hn
            rw [if_pos rfl,if_pos he]
          · rw [if_neg hn,if_neg fun h => hn (hown n h)]
        · intro k hk hkg
          have hne : k.generation ≠ l.generation := by simpa using (List.mem_filter.mp hk).2
          exact absurd hkg hne
      · have hd : (c.release l.generation).1 =
            { c with loops := c.loops.map (Collector.setPhase l.generation .leaving .ended) } := by
          simp [Collector.release,hl,hp,he]
        rw [hd]
        refine hc.giveUp (inherits_setPhase (by decide) (by decide) rfl) hmem ?_ ?_ rfl
        · intro n
          rw [if_neg]
          intro hn
          obtain rfl := hown n hn
          exact he hn
        · intro k hk hkg
          obtain ⟨k₀,hk₀,rfl⟩ := List.mem_map.mp hk
          rw [Collector.setPhase_generation] at hkg
          obtain rfl := hc.eq_of_generation hk₀ hmem hkg
          simp [Collector.setPhase,hp]
    · have hx : Deed.landmarks (.act (.release l.generation)) c = [] := by
        simp [Deed.landmarks,hl,hp]
      have hd : c.release l.generation = (c,[]) := by simp [Collector.release,hl,hp]
      rw [hx,hd,List.append_nil]
      exact hc

theorem tell (hc : Charted h c) (g : Nat) : Charted h (c.tell g) :=
  hc.quiet ⟨inherits_tell g c,rfl,rfl⟩

theorem take (hc : Charted h c) (x : Deed) : Charted (h++x.landmarks c) (x.take c).1 := by
  cases x with
  | withdraw => exact hc.withdraw
  | tell g => exact (List.append_nil h).symm ▸ hc.tell g
  | act a =>
    cases a with
    | collect i => exact hc.collect i
    | cancel n => exact hc.cancel n
    | cancelAll => exact hc.cancelAll
    | release g => exact hc.release g
    | supply | offer | cut | read | wait | observe | finish | tick =>
      exact (List.append_nil h).symm ▸ hc.quiet
        ((reshaped_act _ c).quiet (fun _ h => by cases h) (fun _ => rfl) fun _ => rfl)

end Charted

/-- Whatever is done to a collector, its entries and loops agree with what has become of the loops. -/
theorem charted_performAll (hc : Charted h b.collector) (xs : List Deed) :
    Charted (h++landmarks xs b) (performAll xs b).collector := by
  induction xs generalizing h b with
  | nil => exact (List.append_nil h).symm ▸ hc
  | cons x xs ih =>
    have hs := ih (b := b.perform x) (hc.take x)
    rw [List.append_assoc] at hs
    exact hs

end Metering

end HostMeter
