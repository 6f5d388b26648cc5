import HostMeter.Proofs.Collector.Metering
set_option autoImplicit false

/-! Stops that find their loops anywhere. A loop can have seen its channel disconnected and not yet given
up its entry when the stop comes; whoever waits for it waits until it has found the entry gone. Where no
loop has come that far, as between any two operations, this is what a stop does at once. -/

namespace HostMeter

namespace Collector

/-- Waits for a loop without an entry, however far it has come by then. -/
def await (g : Nat) (c : Collector) : Finish × Collector := ((c.observe g).release g).1.finish g

def quit (name : String) (c : Collector) : Stop × Collector × Effects :=
  match c.cancel name with
  | (none,c,_) => (.notFound,c,[])
  | (some g,c,es) => match c.await g with
    | (.channel i,c) => (.channel i,c,es++[.stopped name])
    | (_,c) => (.lost,c,es)

def awaitAll : List (String × Nat) → Collector → List ChannelId × Collector × Effects
  | [],c => ([],c,[])
  | (name,g) :: rest,c =>
    match c.await g with
    | (.channel i,c) =>
      let (is,c,es) := awaitAll rest c
      (i :: is,c,es)
    | (_,c) =>
      let (is,c,es) := awaitAll rest c
      (is,c,.lost name :: es)

def quitAll (c : Collector) : List ChannelId × Collector × Effects :=
  let (is,c',es) := awaitAll c.entries.entries c.cancelAll
  (is,c',.removed 0 :: es++[.allStopped is.length])

def quitEach : List String → Collector → List ChannelId × Collector
  | [],c => ([],c)
  | n :: ns,c =>
    match c.quit n with
    | (.channel i,c,_) => (i :: (quitEach ns c).1,(quitEach ns c).2)
    | (_,c,_) => quitEach ns c

/-- The channel of a loop, unless the loop has crashed or is not there. -/
def handback (c : Collector) (g : Nat) : Option ChannelId :=
  (c.loop? g).bind fun l => if l.phase = .crashed then none else some l.channel

def Stop.ofHandback : Option ChannelId → Stop
  | some i => .channel i
  | none => .lost

/-- No loop is on its way out. -/
def Settled (c : Collector) : Prop := ∀ l ∈ c.loops,l.phase ≠ .leaving

instance (c : Collector) : Decidable c.Settled :=
  inferInstanceAs (Decidable (∀ l ∈ c.loops,l.phase ≠ .leaving))

/-- Entries and loops fit together, and no loop with an entry has been told to stop. -/
structure Attended (c : Collector) : Prop where
  fresh : ∀ n g,c.entries.get? n = some g → g < c.nextGeneration
  distinct : (c.loops.map (·.generation)).Nodup
  single : ∀ n m g,c.entries.get? n = some g → c.entries.get? m = some g → n = m
  named : ∀ n g,c.entries.get? n = some g → ∀ l ∈ c.loops,l.generation = g → l.name = n
  untold : ∀ n g,c.entries.get? n = some g → ∀ l ∈ c.loops,l.generation = g →
    l.phase ≠ .cancelled ∧ l.phase ≠ .ended

variable {c d : Collector} {n m : String} {g g' : Nat} {l : PollLoop} {i : ChannelId}

theorem loop?_map {f : PollLoop → PollLoop} (hf : ∀ l,(f l).generation = l.generation) (g : Nat) :
    loop? { c with loops := c.loops.map f } g = (c.loop? g).map f := by
  unfold loop?
  rw [List.find?_map]
  congr 2
  funext l
  simp [hf]

theorem loop?_forget (h : g ≠ g') : (c.forget g').loop? g = c.loop? g := by
  unfold loop? forget
  rw [List.find?_filter]
  congr 1
  funext l
  by_cases hl : l.generation = g <;> simp [hl,h]

theorem handback_map {f : PollLoop → PollLoop} (hg : ∀ l,(f l).generation = l.generation)
    (hc : ∀ l,(f l).channel = l.channel) (hp : ∀ l,(f l).phase = .crashed ↔ l.phase = .crashed) :
    handback { c with loops := c.loops.map f } g = c.handback g := by
  unfold handback
  rw [loop?_map hg]
  cases c.loop? g with
  | none => rfl
  | some l => simp [hc,hp]

theorem handback_forget (h : g ≠ g') : (c.forget g').handback g = c.handback g := by
  unfold handback
  rw [loop?_forget h]

theorem forget_map {f : PollLoop → PollLoop} (hf : ∀ l,l.generation ≠ g → f l = l)
    (hg : ∀ l,(f l).generation = l.generation) :
    forget { c with loops := c.loops.map f } g = c.forget g := by
  unfold forget
  simp only
  congr 1
  induction c.loops with
  | nil => rfl
  | cons l ls ih =>
    rw [List.map_cons]
    by_cases h : l.generation = g
    · rw [List.filter_cons_of_neg (by simp [hg,h]),List.filter_cons_of_neg (by simp [h]),ih]
    · rw [hf l h,List.filter_cons_of_pos (by simp [h]),List.filter_cons_of_pos (by simp [h]),ih]

theorem loop_of_handback (h : c.handback g = some i) :
    ∃ l ∈ c.loops,l.generation = g ∧ l.channel = i := by
  obtain ⟨l,hl,hi⟩ := Option.bind_eq_some_iff.mp h
  split at hi
  · cases hi
  · exact ⟨l,List.mem_of_find?_eq_some hl,generation_of_loop? hl,Option.some.inj hi⟩

theorem finish_known (h : c.loop? g = some l) (hp : l.phase = .ended ∨ l.phase = .crashed) :
    c.finish g = (if l.phase = .crashed then .lost else .channel l.channel,c.forget g) := by
  rcases hp with hp | hp <;> simp [finish,h,hp]

theorem await_eq (hp : ∀ l,c.loop? g = some l → l.phase ≠ .polling)
    (he : ∀ l,c.loop? g = some l → c.entries.get? l.name ≠ some g) :
    c.await g = ((c.handback g).elim .lost .channel,c.forget g) := by
  unfold await handback
  have ho := loop?_observe c g
  cases hl : c.loop? g with
  | none =>
    rw [hl,Option.map_none] at ho
    have hr : (c.observe g).release g = (c.observe g,[]) := by simp [release,ho]
    rw [hr]
    exact finish_unknown hl
  | some l =>
    have hg := generation_of_loop? hl
    rw [hl,Option.map_some] at ho
    by_cases hv : l.phase = .leaving
    · have hol : setPhase g .cancelled .ended l = l := by simp [setPhase,hv]
      rw [hol] at ho
      have hr : (c.observe g).release g =
          ({ c.observe g with loops := (c.observe g).loops.map (setPhase g .leaving .ended) },[]) := by
        simp only [release,ho,if_pos hv]
        exact if_neg (he l hl)
      have hf : loop? { c.observe g with
          loops := (c.observe g).loops.map (setPhase g .leaving .ended) } g =
            some { l with phase := .ended } := by
        rw [loop?_map (setPhase_generation g .leaving .ended),ho]
        simp [setPhase,hg,hv]
      rw [hr,finish_known hf (.inl rfl),forget_map (fun l h => setPhase_of_ne h)
        (setPhase_generation g .leaving .ended),forget_observe]
      simp [hv]
    · have hn : ¬(setPhase g .cancelled .ended l).phase = .leaving := by
        unfold setPhase
        split
        · simp
        · exact hv
      have hr : (c.observe g).release g = (c.observe g,[]) := by
        simp only [release,ho,if_neg hn]
      have hend : (setPhase g .cancelled .ended l).phase = .ended ∨
          (setPhase g .cancelled .ended l).phase = .crashed := by
        have hnp := hp l hl
        cases h : l.phase <;> simp_all [setPhase]
      have hcr : (setPhase g .cancelled .ended l).phase = .crashed ↔ l.phase = .crashed := by
        cases h : l.phase <;> simp [setPhase,h,hg]
      have hch : (setPhase g .cancelled .ended l).channel = l.channel := by
        unfold setPhase
        split <;> rfl
      rw [hr,finish_known ho hend,forget_observe,hch]
      by_cases h : l.phase = .crashed <;> simp [h,hcr]

theorem quit_notFound (hn : c.entries.get? n = none) : c.quit n = (.notFound,c,[]) := by
  simp [quit,cancel_none hn]

def quitted (n : String) (g : Nat) (c : Collector) : Collector :=
  { c with entries := c.entries.erase n, loops := c.loops.filter (·.generation ≠ g) }

theorem setPhase_crashed (g : Nat) (l : PollLoop) :
    (setPhase g .polling .cancelled l).phase = .crashed ↔ l.phase = .crashed := by
  unfold setPhase
  split
  · rename_i h
    simp [h.2]
  · rfl

theorem setPhase_name (g : Nat) (x y : Phase) (l : PollLoop) : (setPhase g x y l).name = l.name := by
  unfold setPhase
  split <;> rfl

theorem setPhase_channel (g : Nat) (x y : Phase) (l : PollLoop) :
    (setPhase g x y l).channel = l.channel := by
  unfold setPhase
  split <;> rfl

namespace Attended

theorem await_cancelled (h : c.Attended) (hn : c.entries.get? n = some g) :
    await g { c with
        entries := c.entries.erase n, loops := c.loops.map (setPhase g .polling .cancelled) } =
      ((c.handback g).elim .lost .channel,c.quitted n g) := by
  have hl : ∀ l : PollLoop,loop? { c with
      entries := c.entries.erase n, loops := c.loops.map (setPhase g .polling .cancelled) } g = some l →
        ∃ k ∈ c.loops,k.generation = g ∧ l = setPhase g .polling .cancelled k := by
    intro l hl
    obtain ⟨k,hk,rfl⟩ := List.mem_map.mp (List.mem_of_find?_eq_some hl)
    exact ⟨k,hk,by simpa using generation_of_loop? hl,rfl⟩
  rw [await_eq,handback_map (c := { c with entries := c.entries.erase n })
    (setPhase_generation g .polling .cancelled) (setPhase_channel g .polling .cancelled)
    (setPhase_crashed g)]
  · simp only [forget,filter_map_setPhase]
    rfl
  · intro l hl'
    obtain ⟨k,-,hk,rfl⟩ := hl l hl'
    by_cases hp : k.phase = .polling <;> simp [setPhase,hk,hp]
  · intro l hl'
    obtain ⟨k,hm,hk,rfl⟩ := hl l hl'
    rw [setPhase_name,h.named n g hn k hm hk,Table.get?_erase,if_pos rfl]
    simp

/-- A stop takes the entry away and its loop, and answers with the loop's channel. -/
theorem quit_eq (h : c.Attended) (hn : c.entries.get? n = some g) :
    (c.quit n).1 = .ofHandback (c.handback g) ∧ (c.quit n).2.1 = c.quitted n g := by
  have ha := h.await_cancelled hn
  simp only [quit,cancel_some hn,ha]
  cases c.handback g <;> exact ⟨rfl,rfl⟩

theorem handback_eq_none (h : c.Attended) (g : Nat) :
    c.handback g = none ↔ ∀ l ∈ c.loops,l.generation = g → l.phase = .crashed := by
  unfold handback
  cases hl : c.loop? g with
  | none =>
    refine iff_of_true rfl fun l hm hg => ?_
    exact absurd hg (by simpa using List.find?_eq_none.mp hl l hm)
  | some l =>
    have hm := List.mem_of_find?_eq_some hl
    have hg := generation_of_loop? hl
    have hone : ∀ k ∈ c.loops,k.generation = g → k = l := fun k hk hkg =>
      List.inj_on_of_nodup_map h.distinct hk hm (hkg.trans hg.symm)
    by_cases hp : l.phase = .crashed
    · exact iff_of_true (by simp [hp]) fun k hk hkg => hone k hk hkg ▸ hp
    · exact iff_of_false (by simp [hp]) fun hall => hp (hall l hm hg)

theorem of_quitted (h : c.Attended) (n : String) (g : Nat) : (c.quitted n g).Attended := by
  have he : ∀ {m g'},(c.quitted n g).entries.get? m = some g' → c.entries.get? m = some g' := by
    intro m g' hm
    have hm : (c.entries.erase n).get? m = some g' := hm
    rw [Table.get?_erase] at hm
    split at hm
    · cases hm
    · exact hm
  have hl : ∀ {l},l ∈ (c.quitted n g).loops → l ∈ c.loops := fun hl => List.mem_of_mem_filter hl
  exact {
    fresh := fun m g' hm => h.fresh m g' (he hm)
    distinct := h.distinct.sublist (List.filter_sublist.map _)
    single := fun m m' g' hm hm' => h.single m m' g' (he hm) (he hm')
    named := fun m g' hm l hml => h.named m g' (he hm) l (hl hml)
    untold := fun m g' hm l hml => h.untold m g' (he hm) l (hl hml) }

end Attended

theorem awaitAll_eq {es : List (String × Nat)} (he : c.entries = .empty)
    (hp : ∀ e ∈ es,∀ l ∈ c.loops,l.generation = e.2 → l.phase ≠ .polling)
    (hd : (es.map (·.2)).Nodup) :
    (awaitAll es c).1 = es.filterMap (fun e => c.handback e.2) ∧
      (awaitAll es c).2.1 =
        { c with loops := c.loops.filter fun l => l.generation ∉ es.map (·.2) } := by
  induction es generalizing c with
  | nil => simp [awaitAll]
  | cons e es ih =>
    obtain ⟨n,g⟩ := e
    obtain ⟨hg,hd⟩ := List.nodup_cons.mp hd
    have ha : c.await g = ((c.handback g).elim .lost .channel,c.forget g) := by
      refine await_eq (fun l hl => ?_) fun l hl => by simp [he]
      exact hp (n,g) List.mem_cons_self l (List.mem_of_find?_eq_some hl) (generation_of_loop? hl)
    obtain ⟨hc,hs⟩ := ih (c := c.forget g) he
      (fun e hm l hl => hp e (List.mem_cons_of_mem _ hm) l (List.mem_of_mem_filter hl)) hd
    have hback : es.filterMap (fun e => (c.forget g).handback e.2) =
        es.filterMap fun e => c.handback e.2 := by
      refine List.filterMap_congr fun e hm => handback_forget ?_
      rintro rfl
      exact hg (List.mem_map.mpr ⟨e,hm,rfl⟩)
    have hloops : (c.forget g).loops.filter (fun l => l.generation ∉ es.map (·.2)) =
        c.loops.filter fun l => l.generation ∉ ((n,g) :: es).map (·.2) := by
      simp only [forget,List.filter_filter]
      refine List.filter_congr fun l _ => ?_
      rw [List.map_cons]
      simp only [List.mem_cons,not_or,Bool.decide_and,Bool.and_comm]
    rw [hback] at hc
    rw [hloops] at hs
    cases hb : c.handback g with
    | none =>
      rw [hb] at ha
      simp only [awaitAll,ha,Option.elim,List.filterMap_cons,hb]
      exact ⟨hc,hs⟩
    | some i =>
      rw [hb] at ha
      simp only [awaitAll,ha,Option.elim,List.filterMap_cons,hb]
      exact ⟨congrArg (i :: ·) hc,hs⟩

theorem filter_map_fixed {f : PollLoop → PollLoop} {p : PollLoop → Bool} {ls : List PollLoop}
    (hp : ∀ l,p (f l) = p l) (hf : ∀ l ∈ ls,p l = true → f l = l) :
    (ls.map f).filter p = ls.filter p := by
  induction ls with
  | nil => rfl
  | cons l ls ih =>
    have ih := ih fun k hk => hf k (List.mem_cons_of_mem l hk)
    rw [List.map_cons]
    cases h : p l with
    | true =>
      rw [hf l List.mem_cons_self h,List.filter_cons_of_pos h,List.filter_cons_of_pos h,ih]
    | false =>
      rw [List.filter_cons_of_neg (by simp [hp,h]),List.filter_cons_of_neg (by simp [h]),ih]

namespace Attended

theorem values_nodup (h : c.Attended) : (c.entries.entries.map (·.2)).Nodup := by
  refine List.Pairwise.map _ (fun _ _ hne => hne) ?_
  refine c.entries.ordered.imp_of_mem fun {a b} ha hb hlt heq => ?_
  have hn := h.single a.1 b.1 a.2 (Table.mem_entries_iff.mp ha)
    ((Table.mem_entries_iff.mp hb).trans (congrArg some heq.symm))
  rw [hn] at hlt
  exact String.lt_irrefl _ hlt

theorem quitAll_eq (h : c.Attended) :
    c.quitAll.1 = c.entries.entries.filterMap (fun e => c.handback e.2) ∧
      c.quitAll.2.1 =
        { c with
          entries := .empty
          loops := c.loops.filter fun l => l.generation ∉ c.entries.entries.map (·.2) } := by
  let f := fun l : PollLoop =>
    if c.entries.get? l.name = some l.generation ∧ l.phase = .polling
    then { l with phase := .cancelled } else l
  have hf : ∀ l,(f l).generation = l.generation ∧ (f l).channel = l.channel ∧
      ((f l).phase = .crashed ↔ l.phase = .crashed) := by
    intro l
    by_cases hl : c.entries.get? l.name = some l.generation ∧ l.phase = .polling
    · simp [f,hl.1,hl.2]
    · simp only [f,if_neg hl]
      exact ⟨trivial,trivial,trivial⟩
  have hp : ∀ e ∈ c.entries.entries,∀ l ∈ c.cancelAll.loops,l.generation = e.2 →
      l.phase ≠ .polling := by
    rintro ⟨n,g⟩ hm l hl hg
    obtain ⟨k,hk,rfl⟩ := List.mem_map.mp hl
    have hkg : k.generation = g := (hf k).1.symm.trans hg
    have hn := Table.mem_entries_iff.mp hm
    have hname := h.named n g hn k hk hkg
    by_cases hpol : k.phase = .polling <;> simp [hname,hn,hkg,hpol]
  obtain ⟨hc,hs⟩ := awaitAll_eq (c := c.cancelAll) rfl hp h.values_nodup
  refine ⟨?_,?_⟩
  · refine Eq.trans hc (List.filterMap_congr fun e _ => ?_)
    exact handback_map (c := { c with entries := .empty }) (fun l => (hf l).1) (fun l => (hf l).2.1)
      fun l => (hf l).2.2
  · refine Eq.trans hs ?_
    have hloops : c.cancelAll.loops.filter
          (fun l => l.generation ∉ c.entries.entries.map (·.2)) =
        c.loops.filter fun l => l.generation ∉ c.entries.entries.map (·.2) := by
      refine filter_map_fixed (f := f) (fun l => by rw [(hf l).1]) fun l _ hl => if_neg fun hown => ?_
      have hmem : l.generation ∈ c.entries.entries.map (·.2) :=
        List.mem_map.mpr ⟨_,Table.mem_entries_iff.mpr hown.1,rfl⟩
      exact absurd hmem (by simpa using hl)
    rw [hloops]
    rfl

theorem quitEach_eq {ns : List String} (h : c.Attended) (hd : ns.Nodup)
    (hns : ∀ n ∈ ns,(c.entries.get? n).isSome) :
    (quitEach ns c).1 = ns.filterMap (fun n => (c.entries.get? n).bind c.handback) ∧
      (quitEach ns c).2 =
        { c with
          entries := ns.foldl Table.erase c.entries
          loops := c.loops.filter fun l => ∀ n ∈ ns,c.entries.get? n ≠ some l.generation } := by
  induction ns generalizing c with
  | nil => simp [quitEach]
  | cons n ns ih =>
    obtain ⟨hn,hd⟩ := List.nodup_cons.mp hd
    obtain ⟨g,hg⟩ := Option.isSome_iff_exists.mp (hns n List.mem_cons_self)
    obtain ⟨ha,hq⟩ := h.quit_eq hg
    have hkept : ∀ m ∈ ns,(c.quitted n g).entries.get? m = c.entries.get? m := by
      intro m hm
      have hne : m ≠ n := fun he => hn (he ▸ hm)
      show (c.entries.erase n).get? m = _
      rw [Table.get?_erase,if_neg hne]
    have hother : ∀ m ∈ ns,c.entries.get? m ≠ some g := by
      intro m hm hg'
      exact hn (h.single m n g hg' hg ▸ hm)
    obtain ⟨hc,hs⟩ := ih (h.of_quitted n g) hd fun m hm => by
      rw [hkept m hm]
      exact hns m (List.mem_cons_of_mem _ hm)
    have hback : ns.filterMap (fun m => ((c.quitted n g).entries.get? m).bind (c.quitted n g).handback) =
        ns.filterMap fun m => (c.entries.get? m).bind c.handback := by
      refine List.filterMap_congr fun m hm => ?_
      rw [hkept m hm]
      cases hm' : c.entries.get? m with
      | none => rfl
      | some g' =>
        have hne : g' ≠ g := fun he => hother m hm (hm'.trans (congrArg some he))
        exact handback_forget (c := c) hne
    have hloops : (c.quitted n g).loops.filter
          (fun l => ∀ m ∈ ns,(c.quitted n g).entries.get? m ≠ some l.generation) =
        c.loops.filter fun l => ∀ m ∈ n :: ns,c.entries.get? m ≠ some l.generation := by
      have hkeep : ∀ l : PollLoop,
          (∀ m ∈ ns,(c.quitted n g).entries.get? m ≠ some l.generation) ↔
            ∀ m ∈ ns,c.entries.get? m ≠ some l.generation :=
        fun l => forall₂_congr fun m hm => by rw [hkept m hm]
      simp only [hkeep]
      show (c.loops.filter (·.generation ≠ g)).filter _ = _
      rw [List.filter_filter]
      refine List.filter_congr fun l _ => ?_
      rw [Bool.eq_iff_iff]
      simp only [Bool.and_eq_true,decide_eq_true_eq,List.forall_mem_cons,hg]
      rw [and_comm,and_congr_left_iff]
      exact fun _ => not_congr ⟨fun he => congrArg some he.symm,fun he => (Option.some.inj he).symm⟩
    rw [hback] at hc
    rw [hloops] at hs
    rcases hquit : c.quit n with ⟨o,d,es⟩
    rw [hquit] at ha hq
    obtain rfl : o = .ofHandback (c.handback g) := ha
    obtain rfl : d = c.quitted n g := hq
    cases hb : c.handback g with
    | none =>
      rw [hb] at hquit
      simp only [quitEach,hquit,Stop.ofHandback,List.filterMap_cons,hg,Option.bind_some,hb]
      exact ⟨hc,hs⟩
    | some i =>
      rw [hb] at hquit
      simp only [quitEach,hquit,Stop.ofHandback,List.filterMap_cons,hg,Option.bind_some,hb]
      exact ⟨congrArg (i :: ·) hc,hs⟩

/-- Stopping everything is stopping one name after the other, in whatever order. -/
theorem quitEach_quitAll {ns : List String} (h : c.Attended) (hns : ns.Perm c.entries.keys) :
    (quitEach ns c).2 = c.quitAll.2.1 ∧ (quitEach ns c).1.Perm c.quitAll.1 := by
  have hmem : ∀ n,n ∈ ns ↔ (c.entries.get? n).isSome := by
    intro n
    rw [hns.mem_iff,Table.keys,List.mem_map,Option.isSome_iff_exists]
    constructor
    · rintro ⟨e,he,rfl⟩
      exact ⟨e.2,Table.mem_entries_iff.mp he⟩
    · rintro ⟨g,hg⟩
      exact ⟨(n,g),Table.mem_entries_iff.mpr hg,rfl⟩
  have hkeys : c.entries.keys.Nodup := by
    refine List.Pairwise.map _ (fun _ _ hne => hne) ?_
    refine c.entries.ordered.imp fun {a b} hlt he => ?_
    rw [he] at hlt
    exact String.lt_irrefl _ hlt
  obtain ⟨hc,hs⟩ := h.quitEach_eq (hns.nodup_iff.mpr hkeys) fun n hn => (hmem n).mp hn
  obtain ⟨hac,has⟩ := h.quitAll_eq
  constructor
  · have hempty : ns.foldl Table.erase c.entries = .empty := by
      have hall : ∀ (ns : List String) (t : Table Nat) (k : String),
          (ns.foldl Table.erase t).get? k = if k ∈ ns then none else t.get? k := by
        intro ns
        induction ns with
        | nil => simp
        | cons n ns ih =>
          intro t k
          rw [List.foldl_cons,ih,Table.get?_erase]
          by_cases hk : k = n <;> by_cases hm : k ∈ ns <;> simp [hk,hm]
      refine Table.ext fun k => ?_
      rw [hall,Table.get?_empty]
      by_cases hk : k ∈ ns
      · exact if_pos hk
      · rw [if_neg hk]
        simpa [hmem] using hk
    have hloops : c.loops.filter (fun l => ∀ n ∈ ns,c.entries.get? n ≠ some l.generation) =
        c.loops.filter fun l => l.generation ∉ c.entries.entries.map (·.2) := by
      refine List.filter_congr fun l _ => decide_eq_decide.mpr ?_
      rw [List.mem_map]
      constructor
      · rintro hall ⟨e,he,hg⟩
        have hget := Table.mem_entries_iff.mp he
        exact hall e.1 ((hmem e.1).mpr (by simp [hget])) (hget.trans (congrArg some hg))
      · exact fun hno n _ hn => hno ⟨(n,l.generation),Table.mem_entries_iff.mpr hn,rfl⟩
    rw [hs,has,hempty,hloops]
  · have hpairs : c.entries.keys.filterMap (fun n => (c.entries.get? n).bind c.handback) =
        c.entries.entries.filterMap fun e => c.handback e.2 := by
      rw [Table.keys,List.filterMap_map]
      refine List.filterMap_congr fun e he => ?_
      have hget : c.entries.get? e.1 = some e.2 := Table.mem_entries_iff.mp he
      simp [hget]
    rw [hc,hac,← hpairs]
    exact hns.filterMap _

end Attended

namespace Settled

theorem await (h : c.Settled) (g : Nat) : c.await g = (c.observe g).finish g := by
  have hr : ((c.observe g).release g).1 = c.observe g := by
    rcases (c.observe g).release_cases g with hr | ⟨l,hl,hp,-⟩
    · rw [hr]
    · obtain ⟨k,hk,rfl⟩ := List.mem_map.mp (List.mem_of_find?_eq_some hl)
      unfold setPhase at hp
      split at hp
      · cases hp
      · exact absurd hp (h k hk)
  rw [Collector.await,hr]

theorem cancel (h : c.Settled) (n : String) : (c.cancel n).2.1.Settled := by
  cases hn : c.entries.get? n with
  | none =>
    rw [cancel_none hn]
    exact h
  | some g =>
    rw [cancel_some hn]
    intro l hl
    obtain ⟨k,hk,rfl⟩ := List.mem_map.mp hl
    unfold setPhase
    split
    · simp
    · exact h k hk

theorem cancelAll (h : c.Settled) : c.cancelAll.Settled := by
  intro l hl
  obtain ⟨k,hk,rfl⟩ := List.mem_map.mp hl
  split
  · simp
  · exact h k hk

theorem finish (h : c.Settled) (g : Nat) : ((c.observe g).finish g).2.Settled := by
  have ho : (c.observe g).Settled := by
    intro l hl
    obtain ⟨k,hk,rfl⟩ := List.mem_map.mp hl
    unfold setPhase
    split
    · simp
    · exact h k hk
  rcases (c.observe g).finish_cases g with hf | ⟨l,-,-,hf⟩ <;> rw [hf]
  · exact ho
  · exact fun k hk => ho k (List.mem_of_mem_filter hk)

theorem quit_eq (h : c.Settled) (n : String) : c.quit n = c.stop n := by
  have hc := h.cancel n
  unfold Collector.quit Collector.stop
  rcases hx : c.cancel n with ⟨_ | g,d,es⟩
  · rfl
  · rw [hx] at hc
    have ha : d.await g = (d.observe g).finish g := Settled.await hc g
    rcases hf : (d.observe g).finish g with ⟨_ | _ | i,k⟩ <;> simp only [ha,hf]

theorem awaitAll_eq (h : c.Settled) (es : List (String × Nat)) : awaitAll es c = finishAll es c := by
  induction es generalizing c with
  | nil => rfl
  | cons e es ih =>
    obtain ⟨n,g⟩ := e
    have ih := ih (h.finish g)
    simp only [awaitAll,finishAll,h.await g]
    rcases hx : (c.observe g).finish g with ⟨o,d⟩
    have ih : awaitAll es d = finishAll es d := by simpa [hx] using ih
    cases o <;> simp only [ih]

theorem quitAll_eq (h : c.Settled) : c.quitAll = c.stopAll := by
  unfold Collector.quitAll Collector.stopAll
  rw [h.cancelAll.awaitAll_eq]

end Settled

end Collector

end HostMeter
