import HostMeter.Cgroup.Scope
import Mathlib.Data.List.Infix
set_option autoImplicit false

/-! Which names of directories hold a container's id. The heads and the tail that runtimes put around an id
have characters that no id has, so they neither hide in an id nor in one another: taking off the tail and then
the first head that fits loses no id and invents none. -/

namespace HostMeter.Cgroup

variable {c : Char} {cs id head tail : List Char}

def IsContainerId (id : String) : Prop :=
  id.length = 64 ∧ ∀ c ∈ id.toList,c ∈ "0123456789abcdefABCDEF".toList

/-- A name is an id with at most one of the heads before it and at most the tail behind it. -/
def Carries (name id : String) : Prop :=
  IsContainerId id ∧ ∃ head ∈ ["","docker-","crio-","cri-containerd-","libpod-"],
    ∃ tail ∈ ["",".scope"],name = head++id++tail

theorem isHexDigit_iff : isHexDigit c = true ↔ c ∈ "0123456789abcdefABCDEF".toList := by
  have hsmall : ∀ n < 128,
      isHexDigit (Char.ofNat n) = true ↔ Char.ofNat n ∈ "0123456789abcdefABCDEF".toList := by
    decide +kernel
  by_cases hc : c.toNat < 128
  · have h := hsmall c.toNat hc
    rwa [Char.ofNat_toNat] at h
  · constructor
    · intro h
      simp only [isHexDigit,Char.isDigit,Bool.or_eq_true,Bool.and_eq_true,decide_eq_true_eq,
        Char.le_def,UInt32.le_iff_toNat_le] at h
      have hle : c.toNat ≤ 102 := by
        rcases h with (h | h) | h
        · exact Nat.le_trans h.2 (by decide)
        · exact h.2
        · exact Nat.le_trans h.2 (by decide)
      omega
    · intro h
      have hall : ("0123456789abcdefABCDEF".toList.all fun x => x.toNat < 128) = true := by decide +kernel
      exact absurd (of_decide_eq_true (List.all_eq_true.mp hall c h)) hc

theorem isId_iff {id : String} : isId id.toList = true ↔ IsContainerId id := by
  simp only [isId,IsContainerId,Bool.and_eq_true,decide_eq_true_eq,List.all_eq_true,isHexDigit_iff,
    String.length_toList]

theorem not_mem_of_isId (h : isId cs = true) (hc : isHexDigit c = false) : c ∉ cs := by
  intro hm
  simp only [isId,Bool.and_eq_true,List.all_eq_true] at h
  rw [h.2 c hm] at hc
  cases hc

theorem exists_dropScopeTail (cs : List Char) :
    ∃ tail ∈ ["",".scope"],cs = dropScopeTail cs++tail.toList := by
  unfold dropScopeTail
  cases h : Text.dropTail? scopeTail.toList cs with
  | none => exact ⟨"",by simp,by simp⟩
  | some rest => exact ⟨".scope",by simp,Text.dropTail?_eq_some.mp h⟩

theorem exists_dropScopeHead (cs : List Char) :
    ∃ head ∈ "" :: scopeHeads,cs = head.toList++dropScopeHead cs := by
  unfold dropScopeHead
  cases h : scopeHeads.findSome? (fun head => Text.dropHead? head.toList cs) with
  | none => exact ⟨"",List.mem_cons_self,by simp⟩
  | some rest =>
    obtain ⟨head,hm,hrest⟩ := List.exists_of_findSome?_eq_some h
    exact ⟨head,List.mem_cons_of_mem _ hm,Text.dropHead?_eq_some.mp hrest⟩

theorem dropScopeTail_id (hid : isId id = true) : dropScopeTail (head++id) = head++id := by
  unfold dropScopeTail
  cases h : Text.dropTail? scopeTail.toList (head++id) with
  | none => rfl
  | some rest =>
    -- An id is longer than the tail, so the tail would end the id, but no id has a dot.
    have hlen : scopeTail.toList.length ≤ id.length := by
      simp only [isId,Bool.and_eq_true,decide_eq_true_eq] at hid
      rw [hid.1]
      decide
    have hwhole : scopeTail.toList <:+ head++id := ⟨rest,(Text.dropTail?_eq_some.mp h).symm⟩
    have hin := List.suffix_of_suffix_length_le hwhole (List.suffix_append head id) hlen
    exact absurd (hin.subset (by decide)) (not_mem_of_isId (c := '.') hid (by decide))

theorem dropScopeTail_scope (cs : List Char) : dropScopeTail (cs++".scope".toList) = cs := by
  have hrest : Text.dropTail? scopeTail.toList (cs++".scope".toList) = some cs :=
    Text.dropTail?_eq_some.mpr rfl
  rw [dropScopeTail,hrest,Option.getD_some]

theorem dropScopeHead_id (hid : isId id = true) : dropScopeHead id = id := by
  have hdash : ∀ head ∈ scopeHeads,'-' ∈ head.toList := by decide
  have hnone : scopeHeads.findSome? (fun head => Text.dropHead? head.toList id) = none := by
    rw [List.findSome?_eq_none_iff]
    intro head hm
    rw [Option.eq_none_iff_forall_ne_some]
    intro rest hrest
    refine not_mem_of_isId (c := '-') hid (by decide) ?_
    rw [Text.dropHead?_eq_some.mp hrest]
    exact List.mem_append_left _ (hdash head hm)
  rw [dropScopeHead,hnone,Option.getD_none]

theorem dropScopeHead_scopeHead {head : String} (hm : head ∈ scopeHeads) (cs : List Char) :
    dropScopeHead (head.toList++cs) = cs := by
  simp only [scopeHeads,List.mem_cons,List.not_mem_nil,or_false] at hm
  rcases hm with rfl | rfl | rfl | rfl <;> rfl

theorem containerId_eq_some {name id : String} :
    containerId name = some id ↔
      isId id.toList = true ∧ dropScopeHead (dropScopeTail name.toList) = id.toList := by
  have hdef : containerId name = if isId (dropScopeHead (dropScopeTail name.toList)) = true
    then some (String.ofList (dropScopeHead (dropScopeTail name.toList))) else none := rfl
  rw [hdef,Option.ite_none_right_eq_some,Option.some_inj]
  constructor
  · rintro ⟨hid,rfl⟩
    rw [String.toList_ofList]
    exact ⟨hid,rfl⟩
  · rintro ⟨hid,hdrop⟩
    rw [hdrop]
    exact ⟨hid,String.ofList_toList⟩

theorem containerId_iff {name id : String} : containerId name = some id ↔ Carries name id := by
  rw [containerId_eq_some,isId_iff]
  constructor
  · rintro ⟨hid,hdrop⟩
    obtain ⟨tail,htail,hname⟩ := exists_dropScopeTail name.toList
    obtain ⟨head,hhead,hrest⟩ := exists_dropScopeHead (dropScopeTail name.toList)
    refine ⟨hid,head,hhead,tail,htail,?_⟩
    rw [← String.toList_inj,String.toList_append,String.toList_append,← hdrop,← hrest,← hname]
  · rintro ⟨hid,head,hhead,tail,htail,rfl⟩
    refine ⟨hid,?_⟩
    have hid : isId id.toList = true := isId_iff.mpr hid
    have hdrop : dropScopeTail (head++id++tail).toList = head.toList++id.toList := by
      rw [String.toList_append,String.toList_append]
      simp only [List.mem_cons,List.not_mem_nil,or_false] at htail
      rcases htail with rfl | rfl
      · rw [String.toList_empty,List.append_nil,dropScopeTail_id hid]
      · exact dropScopeTail_scope _
    rw [hdrop]
    rcases List.mem_cons.mp hhead with rfl | hm
    · exact dropScopeHead_id hid
    · exact dropScopeHead_scopeHead hm _

/-- A name has an id just if it is one, with at most one head of a runtime before it and at most the tail of
a scope behind it. No name has two ids, and an id is its own. -/
theorem containerId_exact (name : String) :
    (∀ id,containerId name = some id ↔ Carries name id) ∧
    (∀ id id',Carries name id → Carries name id' → id = id') ∧
    ∀ id,containerId name = some id → containerId id = some id := by
  refine ⟨fun id => containerId_iff,fun id id' h h' => ?_,fun id h => ?_⟩
  · exact Option.some.inj ((containerId_iff.mpr h).symm.trans (containerId_iff.mpr h'))
  · have hid := (containerId_iff.mp h).1
    exact containerId_iff.mpr ⟨hid,"",by simp,"",by simp,by simp⟩

/-- An id that begins like a head of a runtime, as far as an id can. -/
def cafeId : String := "c0ffee00c0ffee00c0ffee00c0ffee00C0FFEE00C0FFEE00C0FFEE00C0FFEE00"

theorem containerId_exact_cafe :
    Carries ("crio-"++cafeId++".scope") cafeId ∧ containerId ("crio-"++cafeId++".scope") = some cafeId ∧
      containerId cafeId = some cafeId := by
  have hid : Carries ("crio-"++cafeId++".scope") cafeId :=
    ⟨isId_iff.mp (by decide +kernel),"crio-",by decide,".scope",by decide,rfl⟩
  obtain ⟨hiff,-,hown⟩ := containerId_exact ("crio-"++cafeId++".scope")
  have hread := (hiff cafeId).mpr hid
  exact ⟨hid,hread,hown cafeId hread⟩

end HostMeter.Cgroup
