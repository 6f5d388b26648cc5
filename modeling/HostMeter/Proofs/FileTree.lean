import HostMeter.FileTree
set_option autoImplicit false

/-! Places in a tree of files: what stands at a path below a directory, and how looking the place up from
the root comes to the same. -/

namespace HostMeter.FileTree

/-- No directory has two entries of one name. -/
inductive Unambiguous : FileTree → Prop
  | file (content : Bytes) : Unambiguous (.file content)
  | link (target : Path) : Unambiguous (.link target)
  | dir {es : List (String × FileTree)} (names : (es.map (·.1)).Nodup)
      (entries : ∀ e ∈ es,Unambiguous e.2) : Unambiguous (.dir es)

variable {t u root : FileTree} {es ds : List (String × FileTree)} {name : String} {p q : Path}

theorem Unambiguous.names (h : Unambiguous (.dir es)) : (es.map (·.1)).Nodup := by
  cases h with
  | dir names _ => exact names

theorem Unambiguous.entry (h : Unambiguous (.dir es)) (hm : (name,t) ∈ es) : t.Unambiguous := by
  cases h with
  | dir _ entries => exact entries _ hm

/-- What holds of a directory when it holds of the directories in it holds of every directory. -/
theorem Unambiguous.induction {P : List (String × FileTree) → Prop}
    (step : ∀ es : List (String × FileTree),(es.map (·.1)).Nodup →
      (∀ name ds,(name,.dir ds) ∈ es → P ds) → P es) (h : Unambiguous (.dir es)) : P es := by
  have hall : ∀ t : FileTree,t.Unambiguous → ∀ es,t = .dir es → P es := by
    intro t ht
    induction ht with
    | file content => exact fun es h => by cases h
    | link target => exact fun es h => by cases h
    | dir names _ ih =>
      intro es h
      cases h
      exact step _ names fun name ds hm => ih _ hm ds rfl
  exact hall _ h es rfl

theorem mem_of_child? (h : child? es name = some t) : (name,t) ∈ es := by
  obtain ⟨⟨n,u⟩,hf,rfl⟩ := Option.map_eq_some_iff.mp h
  have hn : n = name := by simpa using List.find?_some hf
  exact hn ▸ List.mem_of_find?_eq_some hf

theorem child?_of_mem (hn : (es.map (·.1)).Nodup) (h : (name,t) ∈ es) : child? es name = some t := by
  induction es with
  | nil => cases h
  | cons e es ih =>
    obtain ⟨hne,hes⟩ := List.nodup_cons.mp hn
    rcases List.mem_cons.mp h with rfl | h
    · simp [child?]
    · have hname : e.1 ≠ name := fun he => hne (List.mem_map.mpr ⟨_,h,he.symm⟩)
      rw [← ih hes h]
      simp [child?,hname]

theorem Unambiguous.child? (h : Unambiguous (.dir es)) (hc : child? es name = some t) :
    t.Unambiguous := h.entry (mem_of_child? hc)

def IsDirAt (es : List (String × FileTree)) (p : Path) : Prop := ∃ ds,plain? p (.dir es) = some (.dir ds)

theorem plain?_cons (es : List (String × FileTree)) (name : String) (p : Path) :
    plain? (name :: p) (.dir es) = (FileTree.child? es name).bind (plain? p) := rfl

theorem plain?_append (p q : Path) (t : FileTree) : plain? (p++q) t = (plain? p t).bind (plain? q) := by
  induction p generalizing t with
  | nil => rfl
  | cons name p ih =>
    cases t with
    | file content => rfl
    | link target => rfl
    | dir es =>
      rw [List.cons_append,plain?_cons,plain?_cons]
      cases FileTree.child? es name with
      | none => rfl
      | some u => exact ih u

theorem plain?_cons_dir : plain? (name :: p) (.dir es) = some (.dir ds) ↔
    ∃ ds',FileTree.child? es name = some (.dir ds') ∧ plain? p (.dir ds') = some (.dir ds) := by
  rw [plain?_cons,Option.bind_eq_some_iff]
  constructor
  · rintro ⟨u,hu,hp⟩
    cases u with
    | file content => cases p <;> cases hp
    | link target => cases p <;> cases hp
    | dir ds' => exact ⟨ds',hu,hp⟩
  · rintro ⟨ds',hu,hp⟩
    exact ⟨_,hu,hp⟩

theorem isDirAt_cons : IsDirAt es (name :: p) ↔ ∃ ds,FileTree.child? es name = some (.dir ds) ∧ IsDirAt ds p := by
  simp only [IsDirAt,plain?_cons_dir,← exists_and_left]
  exact exists_comm

theorem Unambiguous.plain? (h : t.Unambiguous) (hp : plain? p t = some u) : u.Unambiguous := by
  induction p generalizing t with
  | nil =>
    cases hp
    exact h
  | cons name p ih =>
    cases t with
    | file content => cases hp
    | link target => cases hp
    | dir es =>
      obtain ⟨v,hv,hp⟩ := Option.bind_eq_some_iff.mp hp
      exact ih (h.child? hv) hp

/-- From a directory that a walk has come to, it goes on in the same way, whichever links it has taken. -/
theorem walk_append {links : Nat} (h : walk root links t p = .ok (.dir es)) :
    ∃ left,∀ q,walk root links t (p++q) = walk root left (.dir es) q := by
  induction links,t,p using walk.induct root with
  | case1 target rest => simp [walk] at h
  | case2 target rest links ih =>
    rw [walk] at h
    obtain ⟨left,hl⟩ := ih h
    refine ⟨left,fun q => ?_⟩
    rw [walk,← List.append_assoc]
    exact hl q
  | case3 links t hlink =>
    have ht : t = .dir es := by
      cases t with
      | link target => exact absurd rfl (hlink target)
      | file content => simp [walk] at h
      | dir es' => simpa [walk] using h
    exact ⟨links,fun q => by rw [ht,List.nil_append]⟩
  | case4 links content name rest => simp [walk] at h
  | case5 links ds name rest u hu ih =>
    simp only [walk,hu] at h
    obtain ⟨left,hl⟩ := ih h
    refine ⟨left,fun q => ?_⟩
    rw [List.cons_append,walk]
    simp only [hu]
    exact hl q
  | case6 links ds name rest hnone => simp [walk,hnone] at h

theorem walk_plain (root : FileTree) (links : Nat) (h : plain? p (.dir es) = some (.dir ds)) (q : Path) :
    walk root links (.dir es) (p++q) = walk root links (.dir ds) q := by
  induction p generalizing es with
  | nil =>
    cases h
    rfl
  | cons name p ih =>
    obtain ⟨ds',hu,hp⟩ := plain?_cons_dir.mp h
    rw [List.cons_append,walk]
    simp only [hu]
    exact ih hp

variable {whole : FileTree} {r : Path}

theorem list_eq_ok : whole.list r = .ok es ↔ whole.at? r = .ok (.dir es) := by
  unfold list
  split
  · rename_i es' h
    simp [h]
  · rename_i t hdir h
    simp only [h,reduceCtorEq,Except.ok.injEq,false_iff]
    exact hdir es
  · rename_i e h
    simp [h]

theorem at?_append (hr : whole.at? r = .ok (.dir es)) (hp : plain? p (.dir es) = some (.dir ds)) :
    ∃ left,∀ q,whole.at? (r++p++q) = walk whole left (.dir ds) q := by
  obtain ⟨left,hl⟩ := walk_append hr
  refine ⟨left,fun q => ?_⟩
  rw [List.append_assoc]
  exact (hl (p++q)).trans (walk_plain whole left hp q)

theorem list_append (hr : whole.list r = .ok es) (hp : plain? p (.dir es) = some (.dir ds)) :
    whole.list (r++p) = .ok ds := by
  obtain ⟨left,hl⟩ := at?_append (list_eq_ok.mp hr) hp
  have h := hl []
  rw [List.append_nil] at h
  exact list_eq_ok.mpr (h.trans (by simp [walk]))

theorem exists?_append (hr : whole.list r = .ok es) (hp : IsDirAt es p) : whole.exists? (r++p) = true := by
  obtain ⟨ds,hds⟩ := hp
  have h := list_eq_ok.mp (list_append hr hds)
  simp [exists?,h,Except.isOk,Except.toBool]

theorem isSome_of_exists? (hr : whole.list r = .ok es) (hp : plain? p (.dir es) = some (.dir ds))
    (h : whole.exists? (r++p++[name]) = true) : (plain? (p++[name]) (.dir es)).isSome = true := by
  obtain ⟨left,hl⟩ := at?_append (list_eq_ok.mp hr) hp
  cases hc : FileTree.child? ds name with
  | none =>
    rw [exists?,hl] at h
    simp [walk,hc,Except.isOk,Except.toBool] at h
  | some u => simp [plain?_append,hp,plain?,hc]

def HasEntry (es : List (String × FileTree)) (name : String) (p : Path) : Prop :=
  (plain? (p++[name]) (.dir es)).isSome = true

/-- Everything that is listed below a place can be looked up. -/
def Readable (whole : FileTree) (r : Path) (es : List (String × FileTree)) : Prop :=
  ∀ p,(plain? p (.dir es)).isSome = true → whole.exists? (r++p) = true

theorem Readable.exists?_iff (h : Readable whole r es) (hr : whole.list r = .ok es) (hp : IsDirAt es p) :
    whole.exists? (r++p++[name]) = true ↔ HasEntry es name p := by
  obtain ⟨ds,hds⟩ := hp
  refine ⟨isSome_of_exists? hr hds,fun he => ?_⟩
  rw [List.append_assoc]
  exact h _ he

theorem Unambiguous.walk {links : Nat} (hroot : root.Unambiguous) (ht : t.Unambiguous)
    (h : root.walk links t p = .ok u) : u.Unambiguous := by
  induction links,t,p using walk.induct root with
  | case1 target rest => simp [FileTree.walk] at h
  | case2 target rest links ih =>
    rw [FileTree.walk] at h
    exact ih hroot h
  | case3 links t hlink =>
    have hu : t = u := by
      cases t with
      | link target => exact absurd rfl (hlink target)
      | file content => simpa [FileTree.walk] using h
      | dir es => simpa [FileTree.walk] using h
    exact hu ▸ ht
  | case4 links content name rest => simp [FileTree.walk] at h
  | case5 links ds name rest v hv ih =>
    simp only [FileTree.walk,hv] at h
    exact ih (ht.child? hv) h
  | case6 links ds name rest hnone => simp [FileTree.walk,hnone] at h

theorem Unambiguous.list (h : whole.Unambiguous) (hr : whole.list r = .ok es) : Unambiguous (.dir es) :=
  h.walk h (list_eq_ok.mp hr)

theorem map_setEntry (name : String) (t : FileTree) (es : List (String × FileTree)) :
    (setEntry name t es).map (·.1) =
      if name ∈ es.map (·.1) then es.map (·.1) else es.map (·.1)++[name] := by
  induction es with
  | nil => rfl
  | cons e es ih =>
    obtain ⟨n,u⟩ := e
    rw [setEntry]
    by_cases hn : n = name
    · simp [hn]
    · have hn' : name ≠ n := fun h => hn h.symm
      rw [if_neg hn,List.map_cons,ih]
      simp only [List.map_cons,List.mem_cons,hn',false_or]
      split <;> rfl

theorem mem_setEntry {e : String × FileTree} (h : e ∈ setEntry name t es) : e.2 = t ∨ e ∈ es := by
  induction es with
  | nil =>
    rw [List.mem_singleton.mp h]
    exact .inl rfl
  | cons x es ih =>
    rw [setEntry] at h
    split at h
    · rcases List.mem_cons.mp h with rfl | h
      · exact .inl rfl
      · exact .inr (List.mem_cons_of_mem _ h)
    · rcases List.mem_cons.mp h with rfl | h
      · exact .inr List.mem_cons_self
      · exact (ih h).imp_right (List.mem_cons_of_mem _)

theorem Unambiguous.setEntry (h : Unambiguous (.dir es)) (ht : t.Unambiguous) :
    Unambiguous (.dir (setEntry name t es)) := by
  refine .dir ?_ fun e he => ?_
  · rw [map_setEntry]
    split
    · exact h.names
    · rename_i hn
      refine List.nodup_append.mpr ⟨h.names,List.pairwise_singleton _ _,fun a ha b hb => ?_⟩
      rintro rfl
      exact hn (List.mem_singleton.mp hb ▸ ha)
  · rcases mem_setEntry he with he | he
    · exact he ▸ ht
    · exact h.entry he

theorem unambiguous_empty : Unambiguous (.dir []) := .dir .nil fun e he => by cases he

theorem Unambiguous.put {new : FileTree} (hnew : new.Unambiguous) (h : t.Unambiguous) (p : Path) :
    (FileTree.put new p t).Unambiguous := by
  have hone : ∀ {name : String} {u : FileTree},u.Unambiguous → Unambiguous (.dir [(name,u)]) :=
    fun hu => unambiguous_empty.setEntry hu
  induction p generalizing t with
  | nil => exact hnew
  | cons name p ih =>
    cases t with
    | file content => exact hone (ih unambiguous_empty)
    | link target => exact hone (ih unambiguous_empty)
    | dir es =>
      refine h.setEntry (ih ?_)
      cases hc : FileTree.child? es name with
      | none => exact unambiguous_empty
      | some u => exact h.child? hc

theorem Unambiguous.makeDir (h : t.Unambiguous) (p : Path) : (FileTree.makeDir p t).Unambiguous := by
  unfold FileTree.makeDir
  split
  · exact h
  · exact unambiguous_empty.put h p

theorem Unambiguous.remove (h : t.Unambiguous) (p : Path) : (FileTree.remove p t).Unambiguous := by
  induction p generalizing t with
  | nil => exact h
  | cons name p ih =>
    cases t with
    | file content => cases p <;> exact h
    | link target => cases p <;> exact h
    | dir es =>
      cases p with
      | nil =>
        refine .dir (h.names.sublist (List.filter_sublist.map _)) fun e he => ?_
        exact h.entry (List.mem_filter.mp he).1
      | cons name' p =>
        simp only [FileTree.remove]
        split
        · rename_i u hu
          exact h.setEntry (ih (h.child? hu))
        · exact h

end HostMeter.FileTree
