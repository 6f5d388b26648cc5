import HostMeter.Proofs.Cgroup.Announcement
set_option autoImplicit false

/-! What a watch tells of one container. Every place is about one container at most, and looking at it
neither reads nor writes what is kept of another, so the events of a container are those of its own
places. Among them those of memory that ran out follow the growth of its counters, which begin at zero
again when it is removed. -/

namespace HostMeter.Cgroup

namespace Sighting

/-- The container that a place is about: the one whose directory it is if it comes or goes, the one
whose file it is if it is modified. -/
def subject? (x : Sighting) : Option String :=
  match x.change with
  | .created | .removed => containerOfPath x.path
  | .modified => containerOfPath x.path.dropLast
  | .other => none

def events (x : Sighting) (s : WatchState) : List (EventType × String) :=
  (eventsOfPath x.tree x.change x.path s).1

/-- The counters of a container that can be read here, each of them zero if it is missing. -/
def count? (n : String) (x : Sighting) : Option OomCount :=
  if x.change = .modified ∧ x.path.getLast? = some memoryFile ∧
      containerOfPath x.path.dropLast = some n then
    (x.tree.text? x.path).map oomCount
  else none

instance (n : String) (x : Sighting) : Decidable (x.Removed n) :=
  inferInstanceAs (Decidable (_ ∧ _))

end Sighting

/-- What a watch knows of one container. -/
def SameFor (n : String) (s t : WatchState) : Prop :=
  s.oom.get? n = t.oom.get? n ∧ s.pending.contains n = t.pending.contains n

variable {n m : String} {s t : WatchState} {x : Sighting} {us vs xs : List Sighting}

theorem SameFor.refl (n : String) (s : WatchState) : SameFor n s s := ⟨rfl,rfl⟩

theorem SameFor.trans {u : WatchState} (h : SameFor n s t) (h' : SameFor n t u) : SameFor n s u :=
  ⟨h.1.trans h'.1,h.2.trans h'.2⟩

theorem sameFor_updateOom (c : OomCount) (h : n ≠ m) :
    SameFor n (s.updateOom m c).2 s := ⟨by simp [WatchState.updateOom,h],rfl⟩

theorem updateOom_congr (c : OomCount) (h : SameFor n s t) :
    (s.updateOom n c).1 = (t.updateOom n c).1 ∧
      SameFor n (s.updateOom n c).2 (t.updateOom n c).2 := by
  unfold WatchState.updateOom
  rw [h.1]
  exact ⟨rfl,by simp,h.2⟩

namespace Sighting

theorem subject_of_mem {e : EventType × String} (h : e ∈ x.events s) : x.subject? = some e.2 := by
  obtain ⟨tree,change,p⟩ := x
  cases change with
  | created =>
    unfold events eventsOfPath createdEvents at h
    cases hc : containerOfPath p with
    | none => simp [hc] at h
    | some m => cases hp : hasProcess tree p <;> simp_all [subject?]
  | removed =>
    unfold events eventsOfPath removedEvents at h
    cases hc : containerOfPath p <;> simp_all [subject?]
  | modified =>
    unfold events eventsOfPath modifiedEvents at h
    simp only at h
    split at h
    · rename_i file m hf hc
      have hm : e.2 = m := by
        split at h
        · split at h
          · obtain ⟨k,-,rfl⟩ := List.mem_map.mp h
            rfl
          · cases h
        · split at h
          · rw [List.mem_singleton.mp h]
          · cases h
      rw [hm]
      exact hc
    · cases h
  | other => cases h

theorem after_other (h : x.subject? ≠ some n) : SameFor n (x.after s) s := by
  obtain ⟨tree,change,p⟩ := x
  cases change with
  | created =>
    unfold after eventsOfPath createdEvents
    cases hc : containerOfPath p with
    | none => exact .refl n s
    | some m =>
      have hm : n ≠ m := fun he => h (by simp [subject?,hc,he])
      cases hp : hasProcess tree p with
      | true => simpa [hp] using SameFor.refl n s
      | false => simp [SameFor,hm]
  | removed =>
    unfold after eventsOfPath removedEvents
    cases hc : containerOfPath p with
    | none => exact .refl n s
    | some m =>
      have hm : n ≠ m := fun he => h (by simp [subject?,hc,he])
      simp [SameFor,WatchState.forget,hm]
  | modified =>
    unfold after eventsOfPath modifiedEvents
    simp only
    split
    · rename_i file m hf hc
      have hm : n ≠ m := fun he => h (by simp [subject?,hc,he])
      split
      · split
        · exact sameFor_updateOom _ hm
        · exact .refl n s
      · split
        · simp [SameFor,hm]
        · exact .refl n s
    · exact .refl n s
  | other => exact .refl n s

theorem congr (hx : x.subject? = some n) (h : SameFor n s t) :
    x.events s = x.events t ∧ SameFor n (x.after s) (x.after t) := by
  obtain ⟨tree,change,p⟩ := x
  cases change with
  | created =>
    have hc : containerOfPath p = some n := hx
    unfold events after eventsOfPath createdEvents
    simp only [hc]
    cases hp : hasProcess tree p with
    | true => exact ⟨rfl,h⟩
    | false => exact ⟨rfl,h.1,by simp⟩
  | removed =>
    have hc : containerOfPath p = some n := hx
    unfold events after eventsOfPath removedEvents
    simp only [hc]
    exact ⟨trivial,by simp [SameFor,WatchState.forget]⟩
  | modified =>
    have hc : containerOfPath p.dropLast = some n := hx
    unfold events after eventsOfPath modifiedEvents
    simp only [hc]
    cases p.getLast? with
    | none => exact ⟨rfl,h⟩
    | some file =>
      simp only [h.2]
      split
      · cases tree.text? p with
        | none => exact ⟨rfl,h⟩
        | some cs =>
          obtain ⟨he,hs⟩ := updateOom_congr (oomCount cs) h
          exact ⟨congrArg (List.map (·,n)) he,hs⟩
      · split
        · exact ⟨rfl,h.1,by simp⟩
        · exact ⟨rfl,h⟩
  | other => cases hx

theorem count_eq_some {c : OomCount} (h : x.count? n = some c) :
    x.change = .modified ∧ x.path.getLast? = some memoryFile ∧
      containerOfPath x.path.dropLast = some n ∧ ∃ cs,x.tree.text? x.path = some cs ∧ oomCount cs = c := by
  unfold count? at h
  split at h
  · rename_i hx
    obtain ⟨cs,hcs,rfl⟩ := Option.map_eq_some_iff.mp h
    exact ⟨hx.1,hx.2.1,hx.2.2,cs,hcs,rfl⟩
  · cases h

theorem look_count {c : OomCount} (h : x.count? n = some c) (s : WatchState) :
    eventsOfPath x.tree x.change x.path s =
      ((s.updateOom n c).1.map (·,n),(s.updateOom n c).2) := by
  obtain ⟨hch,hf,hc,cs,hcs,rfl⟩ := count_eq_some h
  simp [eventsOfPath,hch,modifiedEvents,hf,hc,hcs]

theorem count_of_mem {e : EventType × String} (h : e ∈ x.events s)
    (ho : e.1 = .oom ∨ e.1 = .oomKill) : x.count? e.2 ≠ none := by
  have hs := subject_of_mem h
  obtain ⟨tree,change,p⟩ := x
  cases change with
  | created =>
    unfold events eventsOfPath createdEvents at h
    have hc : containerOfPath p = some e.2 := hs
    simp only [hc] at h
    split at h
    · rw [List.mem_singleton.mp h] at ho
      simp at ho
    · cases h
  | removed =>
    unfold events eventsOfPath removedEvents at h
    have hc : containerOfPath p = some e.2 := hs
    simp only [hc] at h
    rw [List.mem_singleton.mp h] at ho
    simp at ho
  | modified =>
    have hc : containerOfPath p.dropLast = some e.2 := hs
    unfold events eventsOfPath modifiedEvents at h
    simp only [hc] at h
    cases hf : p.getLast? with
    | none => simp [hf] at h
    | some file =>
      by_cases hm : file = memoryFile
      · subst hm
        cases ht : tree.text? p with
        | none => simp [hf,ht] at h
        | some cs => simp [count?,hf,hc,ht]
      · simp only [hf,if_neg hm] at h
        split at h
        · rw [List.mem_singleton.mp h] at ho
          simp at ho
        · cases h
  | other => cases h

/-- What is kept of the counters is what was read last, until the container is removed. -/
theorem oom_after (n : String) (x : Sighting) (s : WatchState) :
    ((x.after s).oom.get? n).getD {} =
      match x.count? n with
      | some c => c
      | none => if x.Removed n then {} else (s.oom.get? n).getD {} := by
  cases h : x.count? n with
  | some c =>
    rw [after,look_count h]
    simp [WatchState.updateOom]
  | none =>
    by_cases hs : x.subject? = some n
    · obtain ⟨tree,change,p⟩ := x
      cases change with
      | created =>
        have hc : containerOfPath p = some n := hs
        cases hp : hasProcess tree p <;>
          simp [after,eventsOfPath,createdEvents,Removed,hc,hp]
      | removed =>
        have hc : containerOfPath p = some n := hs
        simp [after,eventsOfPath,removedEvents,WatchState.forget,Removed,hc]
      | modified =>
        have hc : containerOfPath p.dropLast = some n := hs
        have hr : ¬Removed n ⟨tree,.modified,p⟩ := fun hr => by cases hr.1
        rw [if_neg hr]
        unfold after eventsOfPath modifiedEvents
        simp only [hc]
        cases hf : p.getLast? with
        | none => rfl
        | some file =>
          by_cases hm : file = memoryFile
          · subst hm
            have ht : tree.text? p = none := by simpa [count?,hf,hc] using h
            simp [ht]
          · simp only [if_neg hm]
            split <;> rfl
      | other => cases hs
    · have hr : ¬x.Removed n := fun hr => hs (by simp [subject?,hr.1,hr.2])
      rw [(after_other hs).1]
      simp [hr]

end Sighting

/-- All that is told of changes, in the order they are looked at. -/
def told : List Sighting → WatchState → List (EventType × String)
  | [],_ => []
  | x :: xs,s => x.events s++told xs (x.after s)

theorem told_append (us vs : List Sighting) (s : WatchState) :
    told (us++vs) s = told us s++told vs (watch us s) := by
  induction us generalizing s with
  | nil => rfl
  | cons u us ih =>
    rw [List.cons_append,told,ih,told,List.append_assoc]
    rfl

theorem told_singleton (x : Sighting) (s : WatchState) : told [x] s = x.events s :=
  List.append_nil _

/-- Of the changes that are about a container the same is told of it without all the others. -/
theorem told_about (xs : List Sighting) (h : SameFor n s t) :
    (told xs s).filter (·.2 = n) = told (xs.filter (·.subject? = some n)) t ∧
      SameFor n (watch xs s) (watch (xs.filter (·.subject? = some n)) t) := by
  induction xs generalizing s t with
  | nil => exact ⟨rfl,h⟩
  | cons x xs ih =>
    by_cases hx : x.subject? = some n
    · obtain ⟨he,ha⟩ := Sighting.congr hx h
      have hall : (x.events s).filter (·.2 = n) = x.events s := by
        refine List.filter_eq_self.mpr fun e hm => ?_
        simpa [hx,eq_comm] using Sighting.subject_of_mem hm
      obtain ⟨ht,hw⟩ := ih ha
      rw [List.filter_cons_of_pos (by simpa using hx),told,List.filter_append,hall,ht,he]
      exact ⟨rfl,hw⟩
    · have hnone : (x.events s).filter (·.2 = n) = [] := by
        refine List.filter_eq_nil_iff.mpr fun e hm => ?_
        have hs := Sighting.subject_of_mem hm
        simpa using fun he => hx (hs.trans (congrArg some he))
      rw [List.filter_cons_of_neg (by simpa using hx),told,List.filter_append,hnone,List.nil_append]
      exact ih ((Sighting.after_other hx).trans h)

/-- What is told of new counters, those of memory that ran out before those of kills. -/
def growth (n : String) (last c : OomCount) : List (EventType × String) :=
  (if last.oom < c.oom then [(.oom,n)] else [])++(if last.kills < c.kills then [(.oomKill,n)] else [])

/-- The counters that were read last since the container was removed last, and zero if none were. -/
def lastCount (n : String) (xs : List Sighting) : OomCount :=
  ((xs.reverse.takeWhile fun x => ¬x.Removed n).filterMap (Sighting.count? n)).head?.getD {}

theorem lastCount_concat (n : String) (xs : List Sighting) (x : Sighting) :
    lastCount n (xs++[x]) =
      match x.count? n with
      | some c => c
      | none => if x.Removed n then {} else lastCount n xs := by
  unfold lastCount
  rw [List.reverse_append,List.reverse_singleton,List.singleton_append]
  by_cases hr : x.Removed n
  · have hc : x.count? n = none := by simp [Sighting.count?,hr.1]
    simp [hr,hc]
  · cases hc : x.count? n <;> simp [hr,hc]

theorem oom_watch (n : String) (xs : List Sighting) :
    ((watch xs {}).oom.get? n).getD {} = lastCount n xs := by
  induction xs using List.reverseRecOn with
  | nil => rfl
  | append_singleton xs x ih =>
    rw [watch_append,lastCount_concat,← ih]
    exact x.oom_after n _

theorem events_oom (n : String) (us : List Sighting) (x : Sighting) :
    (x.events (watch us {})).filter (fun e => e.2 = n ∧ (e.1 = .oom ∨ e.1 = .oomKill)) =
      match x.count? n with
      | some c => growth n (lastCount n us) c
      | none => [] := by
  cases hc : x.count? n with
  | some c =>
    rw [Sighting.events,Sighting.look_count hc,WatchState.updateOom,oom_watch]
    unfold growth
    by_cases ho : (lastCount n us).oom < c.oom <;> by_cases hk : (lastCount n us).kills < c.kills <;>
      simp [ho,hk]
  | none =>
    refine List.filter_eq_nil_iff.mpr fun e hm he => ?_
    obtain ⟨hn,ho⟩ := of_decide_eq_true he
    exact Sighting.count_of_mem hm ho (hn.symm ▸ hc)

/-- The counters of a container never decrease but for its removal. -/
def Grows (n : String) (xs : List Sighting) : Prop :=
  ∀ us x vs c,xs = us++x :: vs → x.count? n = some c →
    (lastCount n us).oom ≤ c.oom ∧ (lastCount n us).kills ≤ c.kills

theorem count_events {k : EventType} (hk : k = .oom ∨ k = .oomKill) (n : String)
    (us : List Sighting) (x : Sighting) :
    (x.events (watch us {})).count (k,n) =
      match x.count? n with
      | some c => (growth n (lastCount n us) c).count (k,n)
      | none => 0 := by
  have he := congrArg (List.count (k,n)) (events_oom n us x)
  rw [List.count_filter (by simpa using hk)] at he
  rw [he]
  cases x.count? n <;> rfl

theorem Grows.of_append (h : Grows n (us++vs)) : Grows n us := by
  rintro ws x ys c rfl hc
  exact h ws x (ys++vs) c (by simp) hc

/-- A counter that never decreases is at least the number of times its growth was told of. -/
theorem count_told_le (hg : Grows n (us++vs)) (hv : ∀ v ∈ vs,¬v.Removed n) :
    (told vs (watch us {})).count (.oom,n) ≤ (lastCount n (us++vs)).oom.toNat ∧
      (told vs (watch us {})).count (.oomKill,n) ≤ (lastCount n (us++vs)).kills.toNat := by
  induction vs using List.reverseRecOn with
  | nil => exact ⟨Nat.zero_le _,Nat.zero_le _⟩
  | append_singleton vs x ih =>
    rw [← List.append_assoc] at hg ⊢
    obtain ⟨ho,hk⟩ := ih hg.of_append fun v hm => hv v (List.mem_append_left _ hm)
    have hr : ¬x.Removed n := hv x (by simp)
    rw [told_append,told_singleton,← watch_append,List.count_append,List.count_append,
      count_events (.inl rfl),count_events (.inr rfl),lastCount_concat]
    cases hc : x.count? n with
    | none => simpa [hr] using ⟨ho,hk⟩
    | some c =>
      obtain ⟨hoc,hkc⟩ := hg (us++vs) x [] c rfl hc
      rw [UInt64.le_iff_toNat_le] at hoc hkc
      have hco : (growth n (lastCount n (us++vs)) c).count (.oom,n) =
          if (lastCount n (us++vs)).oom < c.oom then 1 else 0 := by
        unfold growth
        split <;> split <;> simp
      have hck : (growth n (lastCount n (us++vs)) c).count (.oomKill,n) =
          if (lastCount n (us++vs)).kills < c.kills then 1 else 0 := by
        unfold growth
        split <;> split <;> simp
      simp only [hco,hck,UInt64.lt_iff_toNat_lt]
      constructor <;> split <;> omega

namespace Delivery

def about (n : String) (d : Delivery) : Delivery :=
  { d with
    notification.paths := d.notification.paths.filter fun p =>
      Sighting.subject? ⟨d.tree,d.notification.change,p⟩ = some n }

theorem sightings_about (n : String) (d : Delivery) :
    (d.about n).sightings = d.sightings.filter (·.subject? = some n) := by
  rw [sightings,sightings,List.filter_map]
  rfl

theorem events_eq (d : Delivery) (s : WatchState) :
    d.events s = (told d.sightings s).map fun e =>
      { type := e.1, containerName := e.2, timestamp := d.clock } := by
  have hall : ∀ ps s,(eventsOfPaths d.tree d.notification.change ps s).1 =
      told (ps.map (⟨d.tree,d.notification.change,·⟩)) s := by
    intro ps
    induction ps with
    | nil => exact fun s => rfl
    | cons p ps ih =>
      intro s
      rw [eventsOfPaths_cons,ih]
      rfl
  show (eventsOfPaths d.tree _ d.notification.paths s).1.map _ = _
  rw [hall]
  rfl

end Delivery

def emitted : List Delivery → WatchState → List (List Event)
  | [],_ => []
  | d :: ds,s => d.events s :: emitted ds (d.after s)

theorem emitted_told (ds : List Delivery) (s : WatchState) :
    (emitted ds s).flatten.map (fun e => (e.type,e.containerName)) =
      told (ds.flatMap (·.sightings)) s := by
  induction ds generalizing s with
  | nil => rfl
  | cons d ds ih =>
    rw [emitted,List.flatten_cons,List.map_append,ih,List.flatMap_cons,told_append,d.events_eq,
      after_sightings,List.map_map]
    simp [Function.comp_def]

theorem emitted_about (ds : List Delivery) (h : SameFor n s t) :
    (emitted ds s).map (fun es => es.filter (·.containerName = n)) =
      emitted (ds.map (Delivery.about n)) t := by
  induction ds generalizing s t with
  | nil => rfl
  | cons d ds ih =>
    obtain ⟨ht,hw⟩ := told_about d.sightings h
    rw [← d.sightings_about] at ht hw
    rw [← after_sightings,← after_sightings] at hw
    rw [emitted,List.map_cons,List.map_cons,emitted,ih hw,Delivery.events_eq,Delivery.events_eq,
      ← ht,List.filter_map]
    rfl

/-- A watch tells of a container what it would tell without the places of all others. Among that is
memory that ran out, told of where counters can be read and have grown since they were last read, or
since the container was removed; counters that only grow are therefore never told of too often. -/
theorem watch_projects (n : String) (ds : List Delivery) :
    (emitted ds {}).map (fun es => es.filter (·.containerName = n)) =
        emitted (ds.map (Delivery.about n)) {} ∧
      (emitted ds {}).flatten.map (fun e => (e.type,e.containerName)) =
        told (ds.flatMap (·.sightings)) {} ∧
      (∀ us x vs,ds.flatMap (·.sightings) = us++x :: vs →
        (x.events (watch us {})).filter (fun e => e.2 = n ∧ (e.1 = .oom ∨ e.1 = .oomKill)) =
          match x.count? n with
          | some c => growth n (lastCount n us) c
          | none => []) ∧
      (Grows n (ds.flatMap (·.sightings)) →
        ∀ us vs,ds.flatMap (·.sightings) = us++vs → (∀ v ∈ vs,¬v.Removed n) →
          (told vs (watch us {})).count (.oom,n) ≤ (lastCount n (us++vs)).oom.toNat ∧
            (told vs (watch us {})).count (.oomKill,n) ≤ (lastCount n (us++vs)).kills.toNat) :=
  ⟨emitted_about ds (.refl n {}),emitted_told ds {},fun us x _ _ => events_oom n us x,
    fun hg _ _ hds => count_told_le (hds ▸ hg)⟩

def memoryAs (line : Bytes) (clock : Timestamp) : Delivery :=
  ⟨.dir [(sixtyFour,.dir [(memoryFile,.file line)])],clock,⟨.modified,[[sixtyFour,memoryFile]]⟩⟩

theorem count_memoryAs {line : Bytes} {clock : Timestamp}
    (hx : (memoryAs line clock).sightings = [x]) :
    x.count? sixtyFour = (Utf8.decode? line).map oomCount := by
  obtain rfl := List.singleton_inj.mp hx
  have hat : (memoryAs line clock).tree.at? [sixtyFour,memoryFile] = .ok (.file line) := by
    simp [memoryAs,FileTree.at?,FileTree.walk,FileTree.child?]
  have htext : (memoryAs line clock).tree.text? [sixtyFour,memoryFile] = Utf8.decode? line := by
    cases hd : Utf8.decode? line <;>
      simp [FileTree.text?,FileTree.readText,FileTree.readBytes,hat,hd,Except.toOption]
  have hof : containerOfPath [sixtyFour] = some sixtyFour := by decide
  rw [← htext]
  simp [Sighting.count?,memoryAs,hof]

def grown : List Delivery :=
  [memoryAs [0x6F,0x6F,0x6D,0x20,0x31] 5,memoryAs [0x6F,0x6F,0x6D,0x20,0x33] 6]

theorem watch_projects_grown :
    ∃ x y,grown.flatMap (·.sightings) = [x,y] ∧
      (y.events (watch [x] {})).filter
        (fun e => e.2 = sixtyFour ∧ (e.1 = .oom ∨ e.1 = .oomKill)) = [(.oom,sixtyFour)] ∧
      (told [x,y] {}).count (.oom,sixtyFour) ≤ 3 := by
  obtain ⟨x,hx⟩ : ∃ x,(memoryAs [0x6F,0x6F,0x6D,0x20,0x31] 5).sightings = [x] := ⟨_,rfl⟩
  obtain ⟨y,hy⟩ : ∃ y,(memoryAs [0x6F,0x6F,0x6D,0x20,0x33] 6).sightings = [y] := ⟨_,rfl⟩
  have hcx : x.count? sixtyFour = some ⟨1,0⟩ := (count_memoryAs hx).trans (by decide +kernel)
  have hcy : y.count? sixtyFour = some ⟨3,0⟩ := (count_memoryAs hy).trans (by decide +kernel)
  have hlx : lastCount sixtyFour [x] = ⟨1,0⟩ := by
    rw [← List.nil_append [x],lastCount_concat,hcx]
  have hly : lastCount sixtyFour [x,y] = ⟨3,0⟩ := by
    rw [← List.singleton_append,lastCount_concat,hcy]
  have hds : grown.flatMap (·.sightings) = [x,y] := by
    simp only [grown,List.flatMap_cons,List.flatMap_nil,hx,hy]
    rfl
  have hgrows : Grows sixtyFour (grown.flatMap (·.sightings)) := by
    rintro us z vs c heq hc
    rw [hds] at heq
    rcases us with _ | ⟨u,_ | ⟨w,us⟩⟩
    · obtain ⟨rfl,-⟩ := List.cons.inj heq
      exact ⟨UInt64.zero_le,UInt64.zero_le⟩
    · obtain ⟨rfl,rfl,rfl⟩ : x = u ∧ y = z ∧ [] = vs := by simpa using heq
      obtain rfl := Option.some.inj (hcy.symm.trans hc)
      rw [hlx]
      decide
    · simp at heq
  obtain ⟨-,-,hev,hle⟩ := watch_projects sixtyFour grown
  have hkept : ∀ v ∈ [x,y],¬v.Removed sixtyFour := by
    intro v hv hr
    have hm : v.change = .modified := by
      obtain rfl | rfl : v = x ∨ v = y := by simpa using hv
      · exact (Sighting.count_eq_some hcx).1
      · exact (Sighting.count_eq_some hcy).1
    exact absurd (hm.symm.trans hr.1) (by decide)
  refine ⟨x,y,hds,?_,?_⟩
  · rw [hev [x] y [] hds,hcy,hlx]
    decide
  · have h := (hle hgrows [] [x,y] hds hkept).1
    rw [List.nil_append,hly] at h
    exact h

end HostMeter.Cgroup
