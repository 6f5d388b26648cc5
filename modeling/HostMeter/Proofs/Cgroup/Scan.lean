import HostMeter.Cgroup.Watch
import HostMeter.Proofs.FileTree
import Mathlib.Data.List.Nodup
set_option autoImplicit false

/-! What a scan finds. In any tree of directories it is the containers that lie in no other container, each
once. A directory that is only named like a container is looked into like any other. -/

namespace HostMeter.Cgroup

open FileTree

/-- At a path below some entries stands a directory that has the id in its name and the mark of a
container. -/
def IsContainer (marked : Path → Prop) (es : List (String × FileTree)) (p : Path) (id : String) : Prop :=
  containerOfPath p = some id ∧ IsDirAt es p ∧ marked p

/-- A container that lies in no other. -/
def Outermost (marked : Path → Prop) (es : List (String × FileTree)) (p : Path) (id : String) : Prop :=
  IsContainer marked es p id ∧ ∀ q,q <+: p → q ≠ p → ∀ i,¬IsContainer marked es q i

/-- The mark that the scan goes by: `cpu.stat` is there when it is looked up. -/
def Marked (isThere : Path → Bool) (base p : Path) : Prop := isThere (base++p++[statName]) = true

variable {isThere : Path → Bool} {base p q : Path} {es ds : List (String × FileTree)} {name id : String}
  {f : Found}

theorem not_isContainer_nil {marked : Path → Prop} : ¬IsContainer marked es [] id := by
  rintro ⟨h,-⟩
  cases h

theorem not_outermost_nil {marked : Path → Prop} : ¬Outermost marked es [] id :=
  fun h => not_isContainer_nil h.1

theorem containerOfPath_append (p : Path) (hq : q ≠ []) : containerOfPath (p++q) = containerOfPath q := by
  rw [containerOfPath,List.getLast?_append_of_ne_nil p hq,containerOfPath]

theorem marked_cons (isThere : Path → Bool) (base : Path) (name : String) (p : Path) :
    Marked isThere base (name :: p) ↔ Marked isThere (base++[name]) p := by
  simp [Marked]

theorem containerOf?_eq_some :
    containerOf? isThere base name = some id ↔ containerId name = some id ∧ Marked isThere base [name] := by
  rw [containerOf?,Option.filter_eq_some_iff,Marked,List.append_assoc,List.singleton_append]

theorem isContainer_single :
    IsContainer (Marked isThere base) es [name] id ↔
      (∃ ds,child? es name = some (.dir ds)) ∧ containerOf? isThere base name = some id := by
  have hdir : IsDirAt es [name] ↔ ∃ ds,child? es name = some (.dir ds) := by
    rw [isDirAt_cons]
    exact exists_congr fun ds => ⟨fun h => h.1,fun h => ⟨h,ds,rfl⟩⟩
  rw [containerOf?_eq_some,IsContainer,hdir]
  exact and_left_comm

theorem isContainer_cons (hp : p ≠ []) :
    IsContainer (Marked isThere base) es (name :: p) id ↔
      ∃ ds,child? es name = some (.dir ds) ∧ IsContainer (Marked isThere (base++[name])) ds p id := by
  unfold IsContainer
  rw [show name :: p = [name]++p from rfl,containerOfPath_append [name] hp,List.singleton_append,
    isDirAt_cons,marked_cons]
  constructor
  · rintro ⟨hid,⟨ds,hds,hdir⟩,hm⟩
    exact ⟨ds,hds,hid,hdir,hm⟩
  · rintro ⟨ds,hds,hid,hdir,hm⟩
    exact ⟨hid,⟨ds,hds,hdir⟩,hm⟩

/-- Below an entry that is a container nothing else is outermost, below any other what is outermost there. -/
theorem outermost_cons :
    Outermost (Marked isThere base) es (name :: p) id ↔ ∃ ds,child? es name = some (.dir ds) ∧
      (p = [] ∧ containerOf? isThere base name = some id ∨
        containerOf? isThere base name = none ∧ Outermost (Marked isThere (base++[name])) ds p id) := by
  by_cases hp : p = []
  · subst hp
    have hpre : ∀ q,q <+: [name] → q ≠ [name] → q = [] := by
      intro q hq hne
      rcases List.prefix_cons_iff.mp hq with hq | ⟨r,rfl,hr⟩
      · exact hq
      · exact absurd (by rw [List.prefix_nil.mp hr]) hne
    constructor
    · rintro ⟨hc,-⟩
      obtain ⟨⟨ds,hds⟩,hid⟩ := isContainer_single.mp hc
      exact ⟨ds,hds,.inl ⟨rfl,hid⟩⟩
    · rintro ⟨ds,hds,⟨-,hid⟩ | ⟨-,ho⟩⟩
      · refine ⟨isContainer_single.mpr ⟨⟨ds,hds⟩,hid⟩,fun q hq hne i hi => ?_⟩
        rw [hpre q hq hne] at hi
        exact not_isContainer_nil hi
      · exact absurd ho not_outermost_nil
  · constructor
    · rintro ⟨hc,ho⟩
      obtain ⟨ds,hds,hc⟩ := (isContainer_cons hp).mp hc
      have hfree : containerOf? isThere base name = none := by
        rw [Option.eq_none_iff_forall_ne_some]
        intro i hi
        refine ho [name] ?_ ?_ i (isContainer_single.mpr ⟨⟨ds,hds⟩,hi⟩)
        · exact List.prefix_cons_iff.mpr (.inr ⟨[],rfl,List.nil_prefix⟩)
        · exact fun h => hp (List.cons.inj h).2.symm
      refine ⟨ds,hds,.inr ⟨hfree,hc,fun q hq hne i hi => ?_⟩⟩
      have hq0 : q ≠ [] := fun h => not_isContainer_nil (h ▸ hi)
      refine ho (name :: q) ?_ ?_ i ((isContainer_cons hq0).mpr ⟨ds,hds,hi⟩)
      · exact List.cons_prefix_cons.mpr ⟨rfl,hq⟩
      · exact fun h => hne (List.cons.inj h).2
    · rintro ⟨ds,hds,⟨h,-⟩ | ⟨hfree,hc,ho⟩⟩
      · exact absurd h hp
      · refine ⟨(isContainer_cons hp).mpr ⟨ds,hds,hc⟩,fun q hq hne i hi => ?_⟩
        rcases List.prefix_cons_iff.mp hq with rfl | ⟨r,rfl,hr⟩
        · exact not_isContainer_nil hi
        · by_cases hr0 : r = []
          · subst hr0
            rw [(isContainer_single.mp hi).2] at hfree
            cases hfree
          · obtain ⟨ds',hds',hi⟩ := (isContainer_cons hr0).mp hi
            cases hds.symm.trans hds'
            exact ho r hr (fun h => hne (by rw [h])) i hi

theorem scanAll_eq_flatMap (isThere : Path → Bool) (base : Path) (es : List (String × FileTree)) :
    scanAll isThere base es = es.flatMap (scanEntry isThere base) := by
  induction es with
  | nil => rfl
  | cons e es ih => rw [scanAll,ih,List.flatMap_cons]

theorem mem_scanEntry {e : String × FileTree} :
    f ∈ scanEntry isThere base e ↔ ∃ ds,e.2 = .dir ds ∧
      (f.path = base++[e.1] ∧ containerOf? isThere base e.1 = some f.id ∨
        containerOf? isThere base e.1 = none ∧ f ∈ scanAll isThere (base++[e.1]) ds) := by
  obtain ⟨name,t⟩ := e
  obtain ⟨i,path⟩ := f
  cases t with
  | file content => simp [scanEntry,isDir]
  | link target => simp [scanEntry,isDir]
  | dir ds =>
    cases hid : containerOf? isThere base name with
    | none => simp [scanEntry,isDir,hid,scan]
    | some id => simp [scanEntry,isDir,hid,and_comm,eq_comm]

theorem mem_scanAll (h : Unambiguous (.dir es)) (isThere : Path → Bool) (base : Path) (f : Found) :
    f ∈ scanAll isThere base es ↔
      ∃ p,f.path = base++p ∧ Outermost (Marked isThere base) es p f.id := by
  revert base f
  refine h.induction (P := fun es => ∀ base f,f ∈ scanAll isThere base es ↔
    ∃ p,f.path = base++p ∧ Outermost (Marked isThere base) es p f.id) ?_
  intro es hnames ih base f
  rw [scanAll_eq_flatMap,List.mem_flatMap]
  constructor
  · rintro ⟨⟨name,t⟩,hm,hf⟩
    obtain ⟨ds,rfl,hcase⟩ := mem_scanEntry.mp hf
    have hchild := child?_of_mem hnames hm
    rcases hcase with ⟨hpath,hid⟩ | ⟨hnone,hf⟩
    · exact ⟨[name],hpath,outermost_cons.mpr ⟨ds,hchild,.inl ⟨rfl,hid⟩⟩⟩
    · obtain ⟨p,hpath,ho⟩ := (ih name ds hm (base++[name]) f).mp hf
      refine ⟨name :: p,?_,outermost_cons.mpr ⟨ds,hchild,.inr ⟨hnone,ho⟩⟩⟩
      rw [hpath,List.append_assoc,List.singleton_append]
  · rintro ⟨p,hpath,ho⟩
    cases p with
    | nil => exact absurd ho not_outermost_nil
    | cons name p =>
      obtain ⟨ds,hchild,hcase⟩ := outermost_cons.mp ho
      have hm := mem_of_child? hchild
      refine ⟨(name,.dir ds),hm,mem_scanEntry.mpr ⟨ds,rfl,?_⟩⟩
      rcases hcase with ⟨rfl,hid⟩ | ⟨hnone,ho⟩
      · exact .inl ⟨hpath,hid⟩
      · refine .inr ⟨hnone,(ih name ds hm (base++[name]) f).mpr ⟨p,?_,ho⟩⟩
        rw [hpath,List.append_assoc,List.singleton_append]

theorem prefix_of_mem_scanEntry {e : String × FileTree} (h : Unambiguous (.dir es)) (he : e ∈ es)
    (hf : f ∈ scanEntry isThere base e) : base++[e.1] <+: f.path := by
  obtain ⟨ds,hds,⟨hpath,-⟩ | ⟨-,hf⟩⟩ := mem_scanEntry.mp hf
  · exact hpath ▸ List.prefix_rfl
  · have hd : Unambiguous (.dir ds) := hds ▸ h.entry he
    obtain ⟨p,hpath,-⟩ := (mem_scanAll hd isThere (base++[e.1]) f).mp hf
    exact hpath ▸ List.prefix_append _ _

theorem nodup_scanAll (h : Unambiguous (.dir es)) (isThere : Path → Bool) (base : Path) :
    ((scanAll isThere base es).map (·.path)).Nodup := by
  revert base
  refine h.induction (P := fun es => Unambiguous (.dir es) →
    ∀ base,((scanAll isThere base es).map (·.path)).Nodup) ?_ h
  intro es hnames ih hes base
  rw [scanAll_eq_flatMap,List.map_flatMap,List.nodup_flatMap]
  constructor
  · rintro ⟨name,t⟩ hm
    cases t with
    | file content => simp [scanEntry,isDir]
    | link target => simp [scanEntry,isDir]
    | dir ds =>
      have hd := ih name ds hm (hes.entry hm) (base++[name])
      cases hid : containerOf? isThere base name with
      | none => simpa [scanEntry,isDir,hid,scan] using hd
      | some id => simp [scanEntry,isDir,hid]
  · -- What is found by way of different entries goes on below different names.
    refine (List.pairwise_map.mp hnames).imp_of_mem ?_
    intro a b ha hb hab x hxa hxb
    obtain ⟨f,hf,rfl⟩ := List.mem_map.mp hxa
    obtain ⟨g,hg,hgf⟩ := List.mem_map.mp hxb
    have hpa := prefix_of_mem_scanEntry hes ha hf
    have hpb := prefix_of_mem_scanEntry hes hb hg
    rw [hgf] at hpb
    have heq : base++[a.1] = base++[b.1] :=
      (List.prefix_of_prefix_length_le hpa hpb (by simp)).eq_of_length (by simp)
    exact hab (by simpa using heq)

theorem scanAt_eq {whole : FileTree} {root : Path} (hr : whole.list root = .ok es) :
    scanAt whole root = .ok (scanAll whole.exists? root es) := by
  rw [scanAt,hr]
  rfl

theorem exists_of_scanAt {whole : FileTree} {root : Path} {found : List Found}
    (h : scanAt whole root = .ok found) :
    ∃ es,whole.list root = .ok es ∧ found = scanAll whole.exists? root es := by
  cases hr : whole.list root with
  | error e => simp [scanAt,hr,Except.map] at h
  | ok es =>
    rw [scanAt_eq hr] at h
    cases h
    exact ⟨es,rfl,rfl⟩

theorem exists?_of_scanAt {whole : FileTree} {root : Path} {found : List Found} (hw : whole.Unambiguous)
    (h : scanAt whole root = .ok found) (hf : f ∈ found) : whole.exists? f.path = true := by
  obtain ⟨es,hr,rfl⟩ := exists_of_scanAt h
  obtain ⟨p,hpath,⟨-,hdir,-⟩,-⟩ := (mem_scanAll (hw.list hr) whole.exists? root f).mp hf
  exact hpath ▸ exists?_append hr hdir

theorem outermost_congr {m m' : Path → Prop} (h : ∀ q,IsDirAt es q → (m q ↔ m' q)) :
    Outermost m es p id ↔ Outermost m' es p id := by
  have hc : ∀ q i,IsContainer m es q i ↔ IsContainer m' es q i := fun q i =>
    and_congr_right fun _ => and_congr_right fun hq => h q hq
  simp only [Outermost,hc]

theorem outermost_append (hq : plain? q (.dir es) = some (.dir ds))
    (hfree : ∀ r,r <+: q → ∀ i,¬IsContainer (Marked isThere base) es r i) :
    Outermost (Marked isThere base) es (q++p) id ↔
      Outermost (Marked isThere (base++q)) ds p id := by
  induction q generalizing es base with
  | nil =>
    cases hq
    rw [List.append_nil,List.nil_append]
  | cons name q ih =>
    obtain ⟨ds',hds',hq⟩ := plain?_cons_dir.mp hq
    have hnone : containerOf? isThere base name = none := by
      rw [Option.eq_none_iff_forall_ne_some]
      intro i hi
      refine hfree [name] ?_ i (isContainer_single.mpr ⟨⟨ds',hds'⟩,hi⟩)
      exact List.prefix_cons_iff.mpr (.inr ⟨[],rfl,List.nil_prefix⟩)
    have hbelow : ∀ r,r <+: q → ∀ i,¬IsContainer (Marked isThere (base++[name])) ds' r i := by
      intro r hr i hi
      have hr0 : r ≠ [] := fun h => not_isContainer_nil (h ▸ hi)
      exact hfree (name :: r) (List.cons_prefix_cons.mpr ⟨rfl,hr⟩) i
        ((isContainer_cons hr0).mpr ⟨ds',hds',hi⟩)
    have hpath : base++name :: q = base++[name]++q := by simp
    rw [List.cons_append,outermost_cons,hpath,← ih hq hbelow]
    simp [hds',hnone]

/-- The scan of a place finds exactly the outermost containers below it, each once: the directories that
have an id in their name and a `cpu.stat` that is there, and lie in no other such directory. In a tree in
which all that is listed can be looked up, it is there if it has an entry. In a directory that is in no
container and is none itself, whatever its name is, the scan finds all that a scan of this directory
finds, and nothing else. -/
theorem scan_outermost {whole : FileTree} {root : Path} (hr : whole.list root = .ok es)
    (hu : Unambiguous (.dir es)) :
    ∃ found,scanAt whole root = .ok found ∧ found.Nodup ∧
      (∀ id path,⟨id,path⟩ ∈ found ↔
        ∃ p,path = root++p ∧ Outermost (fun p => whole.exists? (root++p++[statName]) = true) es p id) ∧
      (whole.Readable root es → ∀ id path,⟨id,path⟩ ∈ found ↔
        ∃ p,path = root++p ∧ Outermost (HasEntry es statName) es p id) ∧
      ∀ q,IsDirAt es q →
        (∀ r,r <+: q → ∀ i,¬IsContainer (fun p => whole.exists? (root++p++[statName]) = true) es r i) →
        ∃ sub,scanAt whole (root++q) = .ok sub ∧ ∀ f,f ∈ sub ↔ f ∈ found ∧ root++q <+: f.path := by
  have hfound := mem_scanAll hu whole.exists? root
  refine ⟨_,scanAt_eq hr,(nodup_scanAll hu _ root).of_map,fun id path => hfound ⟨id,path⟩,?_,?_⟩
  · intro hread id path
    refine (hfound ⟨id,path⟩).trans (exists_congr fun p => and_congr_right fun _ => ?_)
    exact outermost_congr fun q hq => hread.exists?_iff hr hq
  · rintro q ⟨ds,hds⟩ hfree
    refine ⟨_,scanAt_eq (list_append hr hds),fun f => ?_⟩
    rw [mem_scanAll (hu.plain? hds),hfound]
    constructor
    · rintro ⟨p,hpath,ho⟩
      refine ⟨⟨q++p,?_,(outermost_append hds hfree).mpr ho⟩,hpath ▸ List.prefix_append _ _⟩
      rw [hpath,List.append_assoc]
    · rintro ⟨⟨p',hpath,ho⟩,hpre⟩
      obtain ⟨p,rfl⟩ : q <+: p' := (List.prefix_append_right_inj root).mp (hpath ▸ hpre)
      exact ⟨p,by rw [hpath,List.append_assoc],(outermost_append hds hfree).mp ho⟩

def idOf (digit : Char) : String := String.ofList (List.replicate 64 digit)

def statFile : String × FileTree := (statName,.file [])

/-- A directory that is only named like a container, with a container in it, which has another in itself. -/
def nested : List (String × FileTree) :=
  [(idOf 'a',.dir [(idOf 'b',.dir [statFile,(idOf 'c',.dir [statFile])])])]

theorem nested_unambiguous : Unambiguous (.dir nested) := by
  have hleaf : Unambiguous statFile.2 := .file []
  have hc : Unambiguous (.dir [statFile]) := .dir (by decide) (by simpa using hleaf)
  have hb : Unambiguous (.dir [statFile,(idOf 'c',.dir [statFile])]) :=
    .dir (by decide) (by simpa using ⟨hleaf,hc⟩)
  have ha : Unambiguous (.dir [(idOf 'b',.dir [statFile,(idOf 'c',.dir [statFile])])]) :=
    .dir (by decide) (by simpa using hb)
  exact .dir (by decide) (by simpa [nested] using ha)

theorem scan_outermost_nested :
    FileTree.list (.dir nested) [] = .ok nested ∧ Unambiguous (.dir nested) ∧
      ∃ found,scanAt (.dir nested) [] = .ok found ∧ found.Nodup ∧
        ⟨idOf 'b',[idOf 'a',idOf 'b']⟩ ∈ found := by
  have hr : FileTree.list (.dir nested) [] = .ok nested := list_eq_ok.mpr (by simp [at?,walk])
  obtain ⟨found,hf,hn,hm,-⟩ := scan_outermost hr nested_unambiguous
  have hb : idOf 'b' ≠ statName := by decide
  refine ⟨hr,nested_unambiguous,found,hf,hn,(hm _ _).mpr ⟨_,rfl,⟨by decide,⟨_,rfl⟩,?_⟩,?_⟩⟩
  · simp [exists?,at?,walk,nested,child?,statFile,Except.isOk,Except.toBool]
  · rintro q hq hne i ⟨hid,-,hmark⟩
    rcases List.prefix_cons_iff.mp hq with rfl | ⟨r,rfl,hr⟩
    · cases hid
    · rcases List.prefix_cons_iff.mp hr with rfl | ⟨s,rfl,hs⟩
      · simp [exists?,at?,walk,nested,child?,hb,Except.isOk,Except.toBool] at hmark
      · exact hne (by rw [List.prefix_nil.mp hs])

end HostMeter.Cgroup
