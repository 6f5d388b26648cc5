import HostMeter.Cgroup.Host
import HostMeter.Proofs.Cgroup.Scan
import Mathlib.Data.List.Induction
set_option autoImplicit false

/-! Looking up where a container is. With nothing remembered a scan is made and the first place of the
container is taken; a scan remembers the last. So from the first call on, whatever it asks, a container
with several places is looked up at another one, though no file has changed. -/

namespace HostMeter.Cgroup

open FileTree

def placesIn (n : String) (found : List Found) : List Path := (found.filter (·.id == n)).map (·.path)

def pick (choose : List Path → Option Path) (n : String) :
    Except FileError (List Path) → Except RuntimeError Path
  | .ok ps => match choose ps with
    | some p => .ok p
    | none => .error (.notFound n)
  | .error e => .error (fileError e)

theorem mem_placesIn {n : String} {found : List Found} {p : Path} :
    p ∈ placesIn n found ↔ ⟨n,p⟩ ∈ found := by
  unfold placesIn
  rw [List.mem_map]
  constructor
  · rintro ⟨⟨id,path⟩,hf,rfl⟩
    obtain ⟨hm,hid⟩ := List.mem_filter.mp hf
    exact beq_iff_eq.mp hid ▸ hm
  · exact fun h => ⟨⟨n,p⟩,List.mem_filter.mpr ⟨h,beq_self_eq_true n⟩,rfl⟩

theorem nodup_placesIn {t : FileTree} {root : Path} {found : List Found} (ht : t.Unambiguous)
    (h : scanAt t root = .ok found) (n : String) : (placesIn n found).Nodup := by
  obtain ⟨es,hr,rfl⟩ := exists_of_scanAt h
  exact (nodup_scanAll (ht.list hr) t.exists? root).sublist (List.filter_sublist.map _)

theorem head?_eq_getLast?_iff {ps : List Path} (h : ps.Nodup) :
    ps.head? = ps.getLast? ↔ ∀ p ∈ ps,∀ q ∈ ps,p = q := by
  cases ps with
  | nil => simp
  | cons p ps =>
    constructor
    · intro he
      rcases List.eq_nil_or_concat ps with rfl | ⟨rest,x,rfl⟩
      · simp
      · rw [List.concat_eq_append,← List.cons_append,List.getLast?_concat] at he
        have hpx : p = x := Option.some.inj he
        exact absurd (by simp [hpx]) (List.nodup_cons.mp h).1
    · intro hall
      have hlast := List.getLast?_eq_some_getLast (List.cons_ne_nil p ps)
      rw [hlast,List.head?_cons]
      exact congrArg some (hall p List.mem_cons_self _ (List.getLast_mem _))

theorem pick_eq_iff {n : String} {ps : List Path} :
    pick List.getLast? n (.ok ps) = pick List.head? n (.ok ps) ↔ ps.head? = ps.getLast? := by
  cases ps with
  | nil => simp [pick]
  | cons p ps =>
    rw [pick,pick,List.getLast?_eq_some_getLast (List.cons_ne_nil p ps),List.head?_cons]
    simp [eq_comm]

namespace Hierarchy

variable {t : FileTree} {n : String} {h h₀ : Hierarchy} {found : List Found}

def scanned (t : FileTree) (h : Hierarchy) : Hierarchy := (h.scan t).2

theorem scan_ok (hs : scanAt t h.root = .ok found) : h.scan t = (.ok found,h.remember found) := by
  simp [scan,hs]

theorem scan_error {e : FileError} (hs : scanAt t h.root = .error e) :
    h.scan t = (.error (fileError e),h) := by
  simp [scan,hs]

theorem scan_scanned (t : FileTree) (h : Hierarchy) :
    (h.scanned t).scan t = ((h.scan t).1,h.scanned t) := by
  cases hs : scanAt t h.root with
  | ok found =>
    have hh : h.scanned t = h.remember found := congrArg Prod.snd (scan_ok hs)
    rw [hh,scan_ok (h := h.remember found) hs,scan_ok hs]
    rfl
  | error e =>
    have hh : h.scanned t = h := congrArg Prod.snd (scan_error hs)
    rw [hh,scan_error hs]

theorem get?_remember (h : Hierarchy) (found : List Found) (n : String) :
    (h.remember found).known.get? n = (placesIn n found).getLast? := by
  unfold remember placesIn
  induction found using List.reverseRecOn with
  | nil => rfl
  | append_singleton found f ih =>
    rw [List.foldl_concat,Table.get?_insert,List.filter_append,List.map_append]
    by_cases hn : n = f.id
    · simp [hn]
    · have hf : ¬f.id = n := fun he => hn he.symm
      simpa [hn,hf] using ih

theorem search_eq (t : FileTree) (n : String) (h : Hierarchy) :
    h.search t n = (pick List.head? n ((scanAt t h.root).map (placesIn n)),h.scanned t) := by
  unfold search scanned
  cases hs : scanAt t h.root with
  | error e => simp [scan_error hs,Except.map,pick]
  | ok found =>
    rw [scan_ok hs]
    have hhead : (placesIn n found).head? = (found.find? (·.id == n)).map (·.path) := by
      rw [placesIn,List.head?_map,List.head?_filter]
    simp only [Except.map,pick,hhead]
    cases found.find? (·.id == n) <;> rfl

theorem find_fresh (hk : h.known = .empty) (t : FileTree) (n : String) :
    h.find t n = (pick List.head? n ((scanAt t h.root).map (placesIn n)),h.scanned t) := by
  rw [← search_eq]
  simp [find,hk]

/-- Behind a scan, the last place is found, and nothing else is remembered than before. -/
theorem find_scanned (ht : t.Unambiguous) (hk : h.known = .empty) (n : String) :
    (h.scanned t).find t n =
      (pick List.getLast? n ((scanAt t h.root).map (placesIn n)),h.scanned t) := by
  cases hs : scanAt t h.root with
  | error e =>
    have hh : h.scanned t = h := congrArg Prod.snd (scan_error hs)
    rw [hh,find_fresh hk,hs,hh]
    rfl
  | ok found =>
    have hh : h.scanned t = h.remember found := congrArg Prod.snd (scan_ok hs)
    have hroot : (h.scanned t).root = h.root := by rw [hh]; rfl
    have hknown : (h.scanned t).known.get? n = (placesIn n found).getLast? := by
      rw [hh]
      exact get?_remember h found n
    unfold find
    rw [hknown]
    cases hp : (placesIn n found).getLast? with
    | none =>
      have hnil : placesIn n found = [] := List.getLast?_eq_none_iff.mp hp
      have hagain : (h.scanned t).scanned t = h.scanned t := congrArg Prod.snd (scan_scanned t h)
      simp only [search_eq,hroot,hs,hagain,Except.map,pick,hnil]
      rfl
    | some p =>
      -- What has been found is there, so that the place that is remembered serves.
      have hm := mem_placesIn.mp (List.mem_of_getLast? hp)
      have hthere : t.exists? p = true := exists?_of_scanAt ht hs hm
      simp [hthere,Except.map,pick,hp]

theorem list_snd (t : FileTree) (h : Hierarchy) : (h.list t).2 = h.scanned t := by
  unfold list scanned
  rcases h.scan t with ⟨_ | _,_⟩ <;> rfl

theorem get_snd (t : FileTree) (n : String) (h : Hierarchy) : (h.get t n).2 = (h.find t n).2 := by
  unfold get
  rcases h.find t n with ⟨_ | _,_⟩ <;> rfl

end Hierarchy

/-- What can be asked of the runtime that a host is. -/
inductive Call
  | list
  | describe (name : String)
  | openUsage (name : String) (channel : ChannelId)

namespace Host

variable {h : Host} {h₀ : Hierarchy} {cs : List Call}

def call (h : Host) : Call → Host
  | .list => (ContainerRuntime.list h).2
  | .describe n => (ContainerRuntime.describe n h).2
  | .openUsage n i => (ContainerRuntime.openUsage n i h).2

def calls (cs : List Call) (h : Host) : Host := cs.foldl call h

def lookUp (n : String) (h : Host) : Except RuntimeError Path := (h.hierarchy.find h.files n).1

def placesOf (n : String) (h : Host) : Except FileError (List Path) :=
  (scanAt h.files h.hierarchy.root).map (placesIn n)

theorem call_cases (h : Host) (c : Call) : (h.call c).files = h.files ∧
    ((h.call c).hierarchy = (h.hierarchy.list h.files).2 ∨
      ∃ n,(h.call c).hierarchy = (h.hierarchy.find h.files n).2) := by
  cases c with
  | list =>
    unfold call
    simp only [ContainerRuntime.list]
    split <;> rename_i hq <;> cases congrArg Prod.snd hq <;> exact ⟨rfl,.inl rfl⟩
  | describe n =>
    unfold call
    simp only [ContainerRuntime.describe]
    split <;> rename_i hq <;> cases congrArg Prod.snd hq <;>
      exact ⟨rfl,.inr ⟨n,Hierarchy.get_snd h.files n h.hierarchy⟩⟩
  | openUsage n i =>
    unfold call
    simp only [ContainerRuntime.openUsage,startSampler]
    split <;> rename_i hq <;> cases congrArg Prod.snd hq <;>
      exact ⟨rfl,.inr ⟨n,Hierarchy.get_snd h.files n h.hierarchy⟩⟩

/-- Every call leaves the same hierarchy, be it the first or a later one. -/
theorem call_hierarchy (hu : h.files.Unambiguous) (hk : h₀.known = .empty)
    (hh : h.hierarchy = h₀ ∨ h.hierarchy = h₀.scanned h.files) (c : Call) :
    (h.call c).hierarchy = h₀.scanned h.files := by
  have hlist : (h.hierarchy.list h.files).2 = h₀.scanned h.files := by
    rw [Hierarchy.list_snd]
    rcases hh with hh | hh <;> rw [hh]
    exact congrArg Prod.snd (Hierarchy.scan_scanned h.files h₀)
  have hfind : ∀ n,(h.hierarchy.find h.files n).2 = h₀.scanned h.files := by
    intro n
    rcases hh with hh | hh <;> rw [hh]
    · rw [Hierarchy.find_fresh hk]
    · rw [Hierarchy.find_scanned hu hk]
  rcases (call_cases h c).2 with he | ⟨n,he⟩
  · exact he.trans hlist
  · exact he.trans (hfind n)

theorem calls_hierarchy (hu : h.files.Unambiguous) (hk : h.hierarchy.known = .empty) (cs : List Call) :
    (h.calls cs).files = h.files ∧
      (h.calls cs).hierarchy = if cs = [] then h.hierarchy else h.hierarchy.scanned h.files := by
  induction cs using List.reverseRecOn with
  | nil => exact ⟨rfl,rfl⟩
  | append_singleton cs c ih =>
    obtain ⟨hf,hh⟩ := ih
    have hcase : (h.calls cs).hierarchy = h.hierarchy ∨
        (h.calls cs).hierarchy = h.hierarchy.scanned (h.calls cs).files := by
      rw [hf,hh]
      split
      · exact .inl rfl
      · exact .inr rfl
    have hcalls : h.calls (cs++[c]) = (h.calls cs).call c := List.foldl_concat ..
    rw [hcalls,(call_cases _ c).1,call_hierarchy (hf ▸ hu) hk hcase,hf,if_neg (by simp)]
    exact ⟨rfl,rfl⟩

/-- A driver that remembers nothing finds the first place of a container in the order of the listing.
Once anything has been asked of it, it finds the last. So what has been asked makes no difference if and
only if nothing has, or the container has no two places. -/
theorem lookUp_agrees_iff (hu : h.files.Unambiguous) (hk : h.hierarchy.known = .empty)
    (cs : List Call) (n : String) :
    h.lookUp n = pick List.head? n (h.placesOf n) ∧
      (cs ≠ [] → (h.calls cs).lookUp n = pick List.getLast? n (h.placesOf n)) ∧
      ((h.calls cs).lookUp n = h.lookUp n ↔
        cs = [] ∨ ∀ ps,h.placesOf n = .ok ps → ∀ p ∈ ps,∀ q ∈ ps,p = q) := by
  obtain ⟨hf,hh⟩ := calls_hierarchy hu hk cs
  have hfresh : h.lookUp n = pick List.head? n (h.placesOf n) :=
    congrArg Prod.fst (Hierarchy.find_fresh hk h.files n)
  have hused : cs ≠ [] → (h.calls cs).lookUp n = pick List.getLast? n (h.placesOf n) := by
    intro hcs
    rw [lookUp,hf,hh,if_neg hcs,Hierarchy.find_scanned hu hk]
    rfl
  refine ⟨hfresh,hused,?_⟩
  by_cases hcs : cs = []
  · subst hcs
    exact iff_of_true rfl (.inl rfl)
  · rw [hused hcs,hfresh,or_iff_right hcs]
    cases hp : h.placesOf n with
    | error e => simp [pick]
    | ok ps =>
      have hnodup : ps.Nodup := by
        cases hs : scanAt h.files h.hierarchy.root with
        | error e => simp [placesOf,hs,Except.map] at hp
        | ok found =>
          have hps : placesIn n found = ps := by simpa [placesOf,hs,Except.map] using hp
          exact hps ▸ nodup_placesIn hu hs n
      rw [pick_eq_iff,head?_eq_getLast?_iff hnodup]
      simp

def twoSlices : List (String × FileTree) :=
  [("old.slice",.dir [(idOf 'a',.dir [statFile])]),("new.slice",.dir [(idOf 'a',.dir [statFile])])]

def twofold : Host :=
  { files := .dir twoSlices
    hierarchy := { root := [], rootText := "/", proc := ["proc"], machine := none, rateMs := 1000 } }

theorem placesOf_twofold :
    twofold.placesOf (idOf 'a') = .ok [["old.slice",idOf 'a'],["new.slice",idOf 'a']] := by
  have hr : twofold.files.list [] = .ok twoSlices := list_eq_ok.mpr (by simp [at?,walk,twofold])
  have hid : containerId (idOf 'a') = some (idOf 'a') := by decide
  have hold : containerId "old.slice" = none := by decide
  have hnew : containerId "new.slice" = none := by decide
  have hthere : twofold.files.exists? ["old.slice",idOf 'a',statName] = true ∧
      twofold.files.exists? ["new.slice",idOf 'a',statName] = true := by
    simp [exists?,at?,walk,twofold,twoSlices,child?,statFile,Except.isOk,Except.toBool]
  have hscan : scanAll twofold.files.exists? [] twoSlices =
      [⟨idOf 'a',["old.slice",idOf 'a']⟩,⟨idOf 'a',["new.slice",idOf 'a']⟩] := by
    simp [scanAll,scanEntry,scan,isDir,containerOf?,Option.filter,twoSlices,hid,hold,hnew,hthere]
  have hat : scanAt twofold.files twofold.hierarchy.root = _ :=
    (scanAt_eq hr).trans (congrArg Except.ok hscan)
  rw [placesOf,hat]
  simp [Except.map,placesIn]

/-- Describing the container is enough for it to be looked up in the other slice. -/
theorem lookUp_agrees_iff_twofold :
    twofold.files.Unambiguous ∧ twofold.hierarchy.known = .empty ∧
      twofold.lookUp (idOf 'a') = .ok ["old.slice",idOf 'a'] ∧
      (twofold.calls [.describe (idOf 'a')]).lookUp (idOf 'a') = .ok ["new.slice",idOf 'a'] := by
  have hleaf : Unambiguous statFile.2 := .file []
  have hslice : Unambiguous (.dir [(idOf 'a',.dir [statFile])]) :=
    .dir (by decide) (by simpa using Unambiguous.dir (by decide) (by simpa using hleaf))
  have hu : twofold.files.Unambiguous := .dir (by decide) (by simpa [twoSlices] using hslice)
  obtain ⟨hfresh,hused,-⟩ := lookUp_agrees_iff hu rfl [.describe (idOf 'a')] (idOf 'a')
  rw [placesOf_twofold] at hfresh hused
  exact ⟨hu,rfl,hfresh,hused (by simp)⟩

end Host

end HostMeter.Cgroup
