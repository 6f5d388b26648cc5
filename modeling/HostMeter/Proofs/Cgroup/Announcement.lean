import HostMeter.Cgroup.Watch
import Mathlib.Data.List.Induction
set_option autoImplicit false

/-! When a container is announced. A cgroup that is created without a process is pending until a process
is seen to have joined it, or until it is removed. One that is created again in the meantime, and has a
process by then, is announced at once and stays pending all the same, so that the next process to join
announces it again. -/

namespace HostMeter.Cgroup

/-- A change of one place, with the files as they are when it is looked at. -/
structure Sighting where
  tree : FileTree
  change : Change
  path : Path

structure Delivery where
  tree : FileTree
  clock : Timestamp
  notification : Notification

namespace Delivery

def events (d : Delivery) (s : WatchState) : List Event :=
  (eventsOf d.tree d.clock d.notification s).1

def after (d : Delivery) (s : WatchState) : WatchState :=
  (eventsOf d.tree d.clock d.notification s).2

def Announces (n : String) (s : WatchState) (d : Delivery) : Prop :=
  ∃ e ∈ d.events s,e.type = .creation ∧ e.containerName = n

def sightings (d : Delivery) : List Sighting :=
  d.notification.paths.map fun p => ⟨d.tree,d.notification.change,p⟩

end Delivery

def translate (ds : List Delivery) : WatchState := ds.foldl (fun s d => d.after s) {}

namespace Sighting

def after (x : Sighting) (s : WatchState) : WatchState := (eventsOfPath x.tree x.change x.path s).2

def Announces (n : String) (s : WatchState) (x : Sighting) : Prop :=
  (.creation,n) ∈ (eventsOfPath x.tree x.change x.path s).1

/-- The cgroup of a container is created, and no process is found in it. -/
def Bare (n : String) (x : Sighting) : Prop :=
  x.change = .created ∧ containerOfPath x.path = some n ∧ hasProcess x.tree x.path = false

/-- The cgroup of a container is created, and a process is found in it. -/
def Begun (n : String) (x : Sighting) : Prop :=
  x.change = .created ∧ containerOfPath x.path = some n ∧ hasProcess x.tree x.path = true

/-- A file of the processes in a cgroup is modified, and a process is found there. -/
def Joined (n : String) (x : Sighting) : Prop :=
  x.change = .modified ∧ containerOfPath x.path.dropLast = some n ∧
    (∃ file ∈ processFiles,x.path.getLast? = some file) ∧ hasProcess x.tree x.path.dropLast = true

instance (n : String) (x : Sighting) : Decidable (x.Joined n) :=
  inferInstanceAs (Decidable (_ ∧ _ ∧ _ ∧ _))

def Removed (n : String) (x : Sighting) : Prop :=
  x.change = .removed ∧ containerOfPath x.path = some n

def Settles (n : String) (x : Sighting) : Prop := x.Joined n ∨ x.Removed n

end Sighting

def watch (xs : List Sighting) (s : WatchState) : WatchState := xs.foldl (fun s x => x.after s) s

variable {n m : String} {s : WatchState} {x y : Sighting} {us vs xs : List Sighting}

theorem watch_append (us vs : List Sighting) (s : WatchState) :
    watch (us++vs) s = watch vs (watch us s) := List.foldl_append

theorem eventsOfPaths_cons (t : FileTree) (change : Change) (p : Path) (ps : List Path)
    (s : WatchState) :
    eventsOfPaths t change (p :: ps) s =
      ((eventsOfPath t change p s).1++(eventsOfPaths t change ps (eventsOfPath t change p s).2).1,
        (eventsOfPaths t change ps (eventsOfPath t change p s).2).2) := rfl

theorem eventsOfPaths_sightings (t : FileTree) (change : Change) (ps : List Path) (s : WatchState) :
    (eventsOfPaths t change ps s).2 = watch (ps.map (⟨t,change,·⟩)) s ∧
      ((.creation,n) ∈ (eventsOfPaths t change ps s).1 ↔
        ∃ us x vs,ps.map (Sighting.mk t change) = us++x :: vs ∧ x.Announces n (watch us s)) := by
  induction ps generalizing s with
  | nil => simp [eventsOfPaths,watch]
  | cons p ps ih =>
    obtain ⟨hs,he⟩ := ih (eventsOfPath t change p s).2
    rw [eventsOfPaths_cons]
    refine ⟨hs,?_⟩
    rw [List.mem_append,he,List.map_cons]
    constructor
    · rintro (h | ⟨us,x,vs,heq,hx⟩)
      · exact ⟨[],_,_,rfl,h⟩
      · exact ⟨_ :: us,x,vs,congrArg (_ :: ·) heq,hx⟩
    · rintro ⟨us,x,vs,heq,hx⟩
      cases us with
      | nil =>
        obtain ⟨rfl,-⟩ := List.cons.inj heq
        exact .inl hx
      | cons u us =>
        obtain ⟨rfl,hrest⟩ := List.cons.inj heq
        exact .inr ⟨us,x,vs,hrest,hx⟩

theorem after_sightings (d : Delivery) (s : WatchState) : d.after s = watch d.sightings s :=
  (eventsOfPaths_sightings (n := "") ..).1

theorem announces_sightings (d : Delivery) (s : WatchState) :
    d.Announces n s ↔ ∃ us x vs,d.sightings = us++x :: vs ∧ x.Announces n (watch us s) := by
  refine Iff.trans ?_ (eventsOfPaths_sightings d.tree d.notification.change d.notification.paths s).2
  show (∃ e ∈ (eventsOfPaths d.tree _ d.notification.paths s).1.map _,_) ↔ _
  constructor
  · rintro ⟨e,hm,ht,hn⟩
    obtain ⟨⟨k,l⟩,hkl,rfl⟩ := List.mem_map.mp hm
    cases ht
    cases hn
    exact hkl
  · exact fun hm => ⟨_,List.mem_map.mpr ⟨_,hm,rfl⟩,rfl,rfl⟩

theorem translate_sightings (ds : List Delivery) :
    translate ds = watch (ds.flatMap (·.sightings)) {} := by
  have hall : ∀ s,ds.foldl (fun s d => d.after s) s = watch (ds.flatMap (·.sightings)) s := by
    induction ds with
    | nil => exact fun s => rfl
    | cons d ds ih =>
      intro s
      rw [List.foldl_cons,ih,List.flatMap_cons,watch_append,after_sightings]
  exact hall {}

theorem updateOom_quiet (name : String) (c : OomCount) (s : WatchState) :
    .creation ∉ (s.updateOom name c).1 ∧ (s.updateOom name c).2.pending = s.pending := by
  refine ⟨?_,rfl⟩
  unfold WatchState.updateOom
  simp only
  split <;> split <;> simp

namespace Sighting

theorem not_settles_of_begun (h : x.Begun n) : ¬x.Settles n := by
  rintro (hj | hr)
  · exact absurd (h.1.symm.trans hj.1) (by decide)
  · exact absurd (h.1.symm.trans hr.1) (by decide)

/-- All that a sighting does: it can announce a container that begins, or one that was pending when
somebody has joined, and it can make a container pending or settle it. -/
structure Seen (x : Sighting) (n : String) (s : WatchState) : Prop where
  announces : x.Announces n s ↔ x.Begun n ∨ x.Joined n ∧ s.pending.contains n = true
  pending : (x.after s).pending.contains n = true ↔
    x.Bare n ∨ s.pending.contains n = true ∧ ¬x.Settles n

theorem seen_created {t : FileTree} {p : Path} : Seen ⟨t,.created,p⟩ n s := by
  have hs : ¬Settles n ⟨t,.created,p⟩ := by
    rintro (h | h) <;> cases h.1
  have hj : ¬Joined n ⟨t,.created,p⟩ := fun h => hs (.inl h)
  cases hc : containerOfPath p with
  | none => constructor <;> simp [Announces,after,eventsOfPath,createdEvents,Begun,Bare,hj,hs,hc]
  | some m =>
    by_cases hm : m = n
    · subst hm
      cases hp : hasProcess t p <;> constructor <;>
        simp [Announces,after,eventsOfPath,createdEvents,Begun,Bare,hj,hs,hc,hp]
    · cases hp : hasProcess t p <;> constructor <;>
        simp [Announces,after,eventsOfPath,createdEvents,Begun,Bare,hj,hs,hc,hp,hm,Ne.symm hm]

theorem seen_removed {t : FileTree} {p : Path} : Seen ⟨t,.removed,p⟩ n s := by
  have hb : ¬Begun n ⟨t,.removed,p⟩ := fun h => by cases h.1
  have hn : ¬Bare n ⟨t,.removed,p⟩ := fun h => by cases h.1
  have hj : ¬Joined n ⟨t,.removed,p⟩ := fun h => by cases h.1
  cases hc : containerOfPath p with
  | none => constructor <;> simp [Announces,after,eventsOfPath,removedEvents,Settles,Removed,hb,hn,hj,hc]
  | some m =>
    by_cases hm : m = n
    · subst hm
      constructor <;>
        simp [Announces,after,eventsOfPath,removedEvents,WatchState.forget,Settles,Removed,hb,hn,hj,hc]
    · constructor <;>
        simp [Announces,after,eventsOfPath,removedEvents,WatchState.forget,Settles,Removed,hb,hn,hj,hc,
          hm,Ne.symm hm]

theorem seen_nothing (h : eventsOfPath x.tree x.change x.path s = ([],s)) (hb : ¬x.Begun n)
    (hn : ¬x.Bare n) (hs : s.pending.contains n = true → ¬x.Settles n) : Seen x n s where
  announces := by
    have hj : ¬(x.Joined n ∧ s.pending.contains n = true) := fun hj => hs hj.2 (.inl hj.1)
    simp [Announces,h,hb,hj]
  pending := by
    simp only [after,h,hn,false_or]
    exact (and_iff_left_of_imp hs).symm

section

variable {t : FileTree} {p : Path} {file : String}

theorem not_created : ¬Begun n ⟨t,.modified,p⟩ ∧ ¬Bare n ⟨t,.modified,p⟩ := by
  constructor <;> exact fun h => by cases h.1

theorem settles_modified : Settles n ⟨t,.modified,p⟩ ↔ Joined n ⟨t,.modified,p⟩ :=
  or_iff_left fun h => by cases h.1

theorem joined_modified (hf : p.getLast? = some file) (hc : containerOfPath p.dropLast = some m) :
    Joined n ⟨t,.modified,p⟩ ↔ m = n ∧ file ∈ processFiles ∧ hasProcess t p.dropLast = true := by
  simp [Joined,hc,hf]

theorem seen_memory (hf : p.getLast? = some memoryFile) (hc : containerOfPath p.dropLast = some m) :
    Seen ⟨t,.modified,p⟩ n s := by
  obtain ⟨hb,hn⟩ := not_created (n := n) (t := t) (p := p)
  have hj : ¬Joined n ⟨t,.modified,p⟩ := fun h =>
    absurd ((joined_modified hf hc).mp h).2.1 (by decide)
  cases ht : t.text? p with
  | none =>
    exact seen_nothing (by simp [eventsOfPath,modifiedEvents,hf,hc,ht]) hb hn fun _ h =>
      hj (settles_modified.mp h)
  | some cs =>
    obtain ⟨hq,hp⟩ := updateOom_quiet m (oomCount cs) s
    have he : eventsOfPath t .modified p s =
        ((s.updateOom m (oomCount cs)).1.map (·,m),(s.updateOom m (oomCount cs)).2) := by
      simp [eventsOfPath,modifiedEvents,hf,hc,ht]
    constructor
    · simp only [Announces,he,hb,hj,false_and,or_false,iff_false]
      intro h
      obtain ⟨k,hk,heq⟩ := List.mem_map.mp h
      cases heq
      exact hq hk
    · simp [after,he,hp,hn,settles_modified,hj]

theorem seen_processes (hf : p.getLast? = some file) (hc : containerOfPath p.dropLast = some m)
    (hmem : file ≠ memoryFile) : Seen ⟨t,.modified,p⟩ n s := by
  obtain ⟨hb,hn⟩ := not_created (n := n) (t := t) (p := p)
  by_cases hgo : (file ∈ processFiles ∧ s.pending.contains m = true) ∧ hasProcess t p.dropLast = true
  · obtain ⟨⟨hfile,hpend⟩,hproc⟩ := hgo
    have he : eventsOfPath t .modified p s =
        ([(.creation,m)],{ s with pending := s.pending.erase m }) := by
      simp [eventsOfPath,modifiedEvents,hf,hc,hmem,hfile,hpend,hproc]
    by_cases hm : m = n
    · subst hm
      have hj : Joined m ⟨t,.modified,p⟩ := (joined_modified hf hc).mpr ⟨rfl,hfile,hproc⟩
      constructor
      · simp [Announces,he,hb,hj,hpend]
      · simp [after,he,hn,settles_modified,hj]
    · have hj : ¬Joined n ⟨t,.modified,p⟩ := fun h => hm ((joined_modified hf hc).mp h).1
      constructor
      · simp [Announces,he,hb,hj,Ne.symm hm]
      · simp [after,he,hn,settles_modified,hj,Ne.symm hm]
  · refine seen_nothing (by simp [eventsOfPath,modifiedEvents,hf,hc,hmem,hgo]) hb hn ?_
    intro hpend h
    obtain ⟨rfl,hfile,hproc⟩ := (joined_modified hf hc).mp (settles_modified.mp h)
    exact hgo ⟨⟨hfile,hpend⟩,hproc⟩

theorem seen_modified : Seen ⟨t,.modified,p⟩ n s := by
  obtain ⟨hb,hn⟩ := not_created (n := n) (t := t) (p := p)
  cases hf : p.getLast? with
  | none =>
    refine seen_nothing (by simp [eventsOfPath,modifiedEvents,hf]) hb hn fun _ h => ?_
    obtain ⟨-,-,⟨file,-,hl⟩,-⟩ := settles_modified.mp h
    cases hf.symm.trans hl
  | some file =>
    cases hc : containerOfPath p.dropLast with
    | none =>
      refine seen_nothing (by simp [eventsOfPath,modifiedEvents,hf,hc]) hb hn fun _ h => ?_
      obtain ⟨-,hj,-⟩ := settles_modified.mp h
      cases hc.symm.trans hj
    | some m =>
      by_cases hmem : file = memoryFile
      · exact seen_memory (hmem ▸ hf) hc
      · exact seen_processes hf hc hmem

end

theorem seen (x : Sighting) (n : String) (s : WatchState) : x.Seen n s := by
  obtain ⟨t,change,p⟩ := x
  cases change with
  | created => exact seen_created
  | removed => exact seen_removed
  | modified => exact seen_modified
  | other =>
    refine seen_nothing rfl (fun h => by cases h.1) (fun h => by cases h.1) fun _ => ?_
    rintro (h | h) <;> cases h.1

end Sighting

/-- A container has been found bare, and nothing has settled it since. -/
def Waiting (n : String) (xs : List Sighting) : Prop :=
  ∃ us x vs,xs = us++x :: vs ∧ x.Bare n ∧ ∀ v ∈ vs,¬v.Settles n

theorem waiting_concat (xs : List Sighting) (x : Sighting) :
    Waiting n (xs++[x]) ↔ x.Bare n ∨ Waiting n xs ∧ ¬x.Settles n := by
  constructor
  · rintro ⟨us,y,vs,heq,hy,hv⟩
    rcases List.eq_nil_or_concat vs with rfl | ⟨ws,w,rfl⟩
    · obtain ⟨-,rfl⟩ := List.append_singleton_inj.mp heq
      exact .inl hy
    · rw [List.concat_eq_append,← List.cons_append,← List.append_assoc] at heq
      obtain ⟨rfl,rfl⟩ := List.append_singleton_inj.mp heq
      exact .inr ⟨⟨us,y,ws,rfl,hy,fun v hm => hv v (by simp [hm])⟩,hv x (by simp)⟩
  · rintro (hx | ⟨⟨us,y,vs,rfl,hy,hv⟩,hx⟩)
    · exact ⟨xs,x,[],rfl,hx,fun v hm => by cases hm⟩
    · refine ⟨us,y,vs++[x],by simp,hy,?_⟩
      intro v hm
      rcases List.mem_append.mp hm with hm | hm
      · exact hv v hm
      · rw [List.mem_singleton.mp hm]
        exact hx

/-- As long as the container is not found bare again, waiting goes on until something settles it. -/
theorem waiting_append (hv : ∀ v ∈ vs,¬v.Bare n) :
    Waiting n (us++vs) ↔ Waiting n us ∧ ∀ v ∈ vs,¬v.Settles n := by
  induction vs using List.reverseRecOn with
  | nil => simp
  | append_singleton vs v ih =>
    have hb : ¬v.Bare n := hv v (by simp)
    rw [← List.append_assoc,waiting_concat,ih fun w hw => hv w (List.mem_append_left _ hw)]
    simp only [hb,false_or,List.forall_mem_append,List.forall_mem_singleton,and_assoc]

theorem pending_watch (n : String) (xs : List Sighting) :
    (watch xs {}).pending.contains n = true ↔ Waiting n xs := by
  induction xs using List.reverseRecOn with
  | nil => simp [watch,Waiting]
  | append_singleton xs x ih =>
    rw [watch_append,waiting_concat,← ih]
    exact (Sighting.seen x n (watch xs {})).pending

/-- Among the changes since the container was announced last, it has not been found bare. -/
theorem waiting_of_announced (hx : x.Announces n (watch us {})) (hv : ∀ v ∈ vs,¬v.Bare n) :
    Waiting n (us++x :: vs) ↔ x.change = .created ∧ Waiting n us ∧ ∀ v ∈ vs,¬v.Settles n := by
  have hbare : ¬x.Bare n ∧ (x.Settles n ↔ x.change ≠ .created) := by
    rcases (Sighting.seen x n _).announces.mp hx with hb | ⟨hj,-⟩
    · refine ⟨fun h => ?_,?_⟩
      · exact absurd (hb.2.2.symm.trans h.2.2) (by decide)
      · exact iff_of_false (Sighting.not_settles_of_begun hb) fun h => h hb.1
    · have hne : x.change ≠ .created := fun h => absurd (hj.1.symm.trans h) (by decide)
      exact ⟨fun h => hne h.1,iff_of_true (.inl hj) hne⟩
  have hvs : ∀ v ∈ x :: vs,¬v.Bare n := List.forall_mem_cons.mpr ⟨hbare.1,hv⟩
  rw [waiting_append hvs,List.forall_mem_cons,hbare.2,not_not]
  exact and_left_comm

/-- A notification of modified files announces a container that waits, once one of them tells of a process
that has joined. -/
theorem announces_modified {d : Delivery} (hd : d.notification.change = .modified)
    (xs : List Sighting) :
    d.Announces n (watch xs {}) ↔ Waiting n xs ∧ ∃ y ∈ d.sightings,y.Joined n := by
  have hmod : ∀ y ∈ d.sightings,y.change = .modified := by
    intro y hy
    obtain ⟨p,-,rfl⟩ := List.mem_map.mp hy
    exact hd
  have hbare : ∀ ys : List Sighting,(∀ y ∈ ys,y ∈ d.sightings) → ∀ y ∈ ys,¬y.Bare n :=
    fun ys hys y hy h => absurd ((hmod y (hys y hy)).symm.trans h.1) (by decide)
  have hone : ∀ ys y zs,d.sightings = ys++y :: zs →
      (y.Announces n (watch ys (watch xs {})) ↔
        (Waiting n xs ∧ ∀ z ∈ ys,¬z.Settles n) ∧ y.Joined n) := by
    intro ys y zs heq
    have hy : ¬y.Begun n := fun h => absurd ((hmod y (by simp [heq])).symm.trans h.1) (by decide)
    rw [← watch_append,(Sighting.seen y n _).announces,pending_watch,or_iff_right hy,and_comm,
      waiting_append (hbare ys fun z hz => by simp [heq,hz])]
  rw [announces_sightings]
  constructor
  · rintro ⟨ys,y,zs,heq,hy⟩
    obtain ⟨⟨hw,-⟩,hj⟩ := (hone ys y zs heq).mp hy
    exact ⟨hw,y,by simp [heq],hj⟩
  · rintro ⟨hw,y,hy,hj⟩
    -- The first to tell of a process is the one that announces, for those before it settle nothing.
    cases hz : d.sightings.find? (fun z => z.Joined n) with
    | none => exact absurd hj (by simpa using List.find?_eq_none.mp hz y hy)
    | some z =>
      obtain ⟨hjz,ys,zs,heq,hys⟩ := List.find?_eq_some_iff_append.mp hz
      refine ⟨ys,z,zs,heq,(hone ys z zs heq).mpr ⟨⟨hw,?_⟩,by simpa using hjz⟩⟩
      rintro w hw (h | h)
      · simpa [h] using hys w hw
      · exact absurd ((hmod w (by simp [heq,hw])).symm.trans h.1) (by decide)

/-- A container has been announced, and has not been found bare since. A notification of modified files
announces it once more if and only if it was a creation that announced it while it was waiting already,
nothing has settled it since, and now a process has joined. -/
theorem announced_again {ds : List Delivery} {d : Delivery}
    (hds : ds.flatMap (·.sightings) = us++x :: vs) (hx : x.Announces n (watch us {}))
    (hv : ∀ v ∈ vs,¬v.Bare n) (hd : d.notification.change = .modified) :
    d.Announces n (translate ds) ↔
      x.change = .created ∧ Waiting n us ∧ (∀ v ∈ vs,¬v.Settles n) ∧ ∃ y ∈ d.sightings,y.Joined n := by
  rw [translate_sightings,hds,announces_modified hd,waiting_of_announced hx hv]
  simp only [and_assoc]

def sixtyFour : String := "0123456789abcdef0123456789abcdef0123456789abcdef0123456789abcdef"

def oneCgroup (processes : Bytes) : FileTree :=
  .dir [(sixtyFour,.dir [("cgroup.procs",.file processes)])]

theorem hasProcess_oneCgroup (processes : Bytes) :
    hasProcess (oneCgroup processes) [sixtyFour] = ((Utf8.decode? processes).bind firstPid).isSome := by
  have hat : (oneCgroup processes).at? [sixtyFour,"cgroup.procs"] = .ok (.file processes) := by
    simp [FileTree.at?,FileTree.walk,FileTree.child?,oneCgroup]
  have htext : (oneCgroup processes).text? [sixtyFour,"cgroup.procs"] = Utf8.decode? processes := by
    cases hd : Utf8.decode? processes <;>
      simp [FileTree.text?,FileTree.readText,FileTree.readBytes,hat,hd,Except.toOption]
  exact congrArg (fun t => (t.bind firstPid).isSome) htext

def createdAs (processes : Bytes) (clock : Timestamp) : Delivery :=
  ⟨oneCgroup processes,clock,⟨.created,[[sixtyFour]]⟩⟩

def joinedAs (processes : Bytes) (clock : Timestamp) : Delivery :=
  ⟨oneCgroup processes,clock,⟨.modified,[[sixtyFour,"cgroup.procs"]]⟩⟩

/-- A cgroup is created bare, then once more with a process in it, which announces the container. As soon as
its processes change it is announced again. -/
theorem announced_again_joined :
    (createdAs [0x37] 8).Announces sixtyFour (translate [createdAs [] 7]) ∧
      (joinedAs [0x37] 9).Announces sixtyFour (translate [createdAs [] 7,createdAs [0x37] 8]) := by
  have hbare : Sighting.Bare sixtyFour ⟨oneCgroup [],.created,[sixtyFour]⟩ :=
    ⟨rfl,by decide,(hasProcess_oneCgroup []).trans (by decide)⟩
  have hbegun : Sighting.Begun sixtyFour ⟨oneCgroup [0x37],.created,[sixtyFour]⟩ :=
    ⟨rfl,by decide,(hasProcess_oneCgroup [0x37]).trans (by decide)⟩
  have hjoined : Sighting.Joined sixtyFour ⟨oneCgroup [0x37],.modified,[sixtyFour,"cgroup.procs"]⟩ :=
    ⟨rfl,by decide,⟨"cgroup.procs",by decide,rfl⟩,(hasProcess_oneCgroup [0x37]).trans (by decide)⟩
  have hx := (Sighting.seen _ sixtyFour (watch [⟨oneCgroup [],.created,[sixtyFour]⟩] {})).announces.mpr
    (.inl hbegun)
  refine ⟨(announces_sightings _ _).mpr ⟨[],_,[],rfl,hx⟩,?_⟩
  have hds : [createdAs [] 7,createdAs [0x37] 8].flatMap (·.sightings) =
      [⟨oneCgroup [],.created,[sixtyFour]⟩]++⟨oneCgroup [0x37],.created,[sixtyFour]⟩ :: [] := rfl
  refine (announced_again hds hx (by simp) rfl).mpr ?_
  exact ⟨rfl,⟨[],_,[],rfl,hbare,by simp⟩,by simp,_,List.mem_singleton.mpr rfl,hjoined⟩

end HostMeter.Cgroup
