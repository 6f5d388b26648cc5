import HostMeter.Cgroup.Files
import HostMeter.Proofs.Table
import HostMeter.Tracking
set_option autoImplicit false

/-! Tracking for a variable of the environment. The keys that an environment block gives are in lower
case, the policy keeps its key in lower case, and they are compared without regard to case; so what counts
is what the entries of the block spell, up to the case of ASCII. -/

namespace HostMeter

theorem Char.toLower_toLower (c : Char) : c.toLower.toLower = c.toLower := by
  by_cases h : c.val ≥ 'A'.val ∧ c.val ≤ 'Z'.val
  · have hl : c.toLower.val = c.val+('a'.val - 'A'.val) := by
      unfold Char.toLower
      rw [dif_pos h]
    have hn : ¬(c.toLower.val ≥ 'A'.val ∧ c.toLower.val ≤ 'Z'.val) := by
      rw [hl]
      simp only [ge_iff_le,UInt32.le_iff_toNat_le,UInt32.toNat_add] at h ⊢
      simp at h ⊢
      omega
    conv_lhs => unfold Char.toLower
    exact dif_neg hn
  · have hc : c.toLower = c := by
      unfold Char.toLower
      exact dif_neg h
    rw [hc,hc]

theorem toList_toLower (s : String) : s.toLower.toList = lowerAscii s.toList := String.toList_map

theorem toLower_eq_iff {a b : String} :
    a.toLower = b.toLower ↔ lowerAscii a.toList = lowerAscii b.toList := by
  rw [← String.toList_inj,toList_toLower,toList_toLower]

theorem toLower_toLower (s : String) : s.toLower.toLower = s.toLower := by
  rw [toLower_eq_iff,toList_toLower,lowerAscii,lowerAscii,List.map_map]
  exact List.map_congr_left fun c _ => Char.toLower_toLower c

theorem toLower_empty : "".toLower = "" := by
  rw [← String.toList_inj,toList_toLower]
  rfl

theorem toLower_eq_empty {s : String} : s.toLower = "" ↔ s = "" := by
  rw [← String.toList_inj,← String.toList_inj,toList_toLower]
  exact List.map_eq_nil_iff

theorem ofList_lowerAscii (cs : List Char) :
    String.ofList (lowerAscii cs) = (String.ofList cs).toLower := by
  rw [← String.toList_inj,toList_toLower,String.toList_ofList,String.toList_ofList]

theorem sameFolded_iff {a b : String} : sameFolded a b = true ↔ a.toLower = b.toLower := beq_iff_eq

namespace Cgroup

/-- The text of an entry, with what is no text replaced, has this before its first equals sign and that
behind it. -/
def Sets (entry : Bytes) (key value : String) : Prop :=
  Utf8.decodeLossy entry = key.toList ++ '=' :: value.toList ∧ '=' ∉ key.toList

theorem splitZero_eq (block : Bytes) : splitZero block = block.splitOn 0 := by
  induction block with
  | nil => rfl
  | cons b block ih =>
    rw [splitZero,List.splitOn_cons_eq_if_modifyHead,← ih]
    by_cases hb : b = 0
    · simp [hb]
    · cases h : splitZero block with
      | nil => exact absurd (ih.symm.trans h) (List.splitOn_ne_nil 0 block)
      | cons piece pieces => simp [hb]

theorem environEntry_eq_some {entry : Bytes} {k v : String} :
    environEntry entry = some (k,v) ↔ ∃ key,Sets entry key v ∧ key.toLower = k := by
  unfold environEntry Sets
  rw [Option.map_eq_some_iff]
  constructor
  · rintro ⟨⟨a,b⟩,hs,he⟩
    cases he
    refine ⟨String.ofList a,?_,(ofList_lowerAscii a).symm⟩
    simpa using Text.splitOnce_eq_some.mp hs
  · rintro ⟨key,hs,rfl⟩
    refine ⟨(key.toList,v.toList),Text.splitOnce_eq_some.mpr hs,?_⟩
    simp [ofList_lowerAscii]

theorem environ_eq (block : Bytes) :
    environ block = .ofList ((block.splitOn 0).filterMap environEntry) := by
  have hempty : environEntry [] = none := rfl
  rw [environ,splitZero_eq,List.filterMap_filter]
  congr 2
  funext e
  by_cases he : e = []
  · simp [he,hempty]
  · simp [he]

theorem contains_environ {block : Bytes} {k : String} :
    (environ block).contains k = true ↔
      ∃ e ∈ block.splitOn 0,∃ key value,Sets e key value ∧ key.toLower = k := by
  rw [environ_eq,Table.contains_ofList]
  constructor
  · rintro ⟨⟨k,v⟩,hm,rfl⟩
    obtain ⟨e,he,hs⟩ := List.mem_filterMap.mp hm
    obtain ⟨key,hkey⟩ := environEntry_eq_some.mp hs
    exact ⟨e,he,key,v,hkey⟩
  · rintro ⟨e,he,key,v,hkey⟩
    exact ⟨(k,v),List.mem_filterMap.mpr ⟨e,he,environEntry_eq_some.mpr ⟨key,hkey⟩⟩,rfl⟩

theorem forall_keys_iff {es : List Bytes} {k : String} :
    (∀ p ∈ es.filterMap environEntry,p.1 ≠ k) ↔
      ∀ e ∈ es,∀ key value,Sets e key value → key.toLower ≠ k := by
  constructor
  · intro h e he key value hs hk
    exact h (k,value) (List.mem_filterMap.mpr ⟨e,he,environEntry_eq_some.mpr ⟨key,hs,hk⟩⟩) rfl
  · rintro h ⟨k',v⟩ hp rfl
    obtain ⟨e,he,hs⟩ := List.mem_filterMap.mp hp
    obtain ⟨key,hkey,hk⟩ := environEntry_eq_some.mp hs
    exact h e he key v hkey hk

theorem get?_environ {block : Bytes} {k v : String} :
    (environ block).get? k = some v ↔
      ∃ before e after,block.splitOn 0 = before++e :: after ∧
        (∃ key,Sets e key v ∧ key.toLower = k) ∧
        ∀ e' ∈ after,∀ key value,Sets e' key value → key.toLower ≠ k := by
  rw [environ_eq,Table.get?_ofList]
  constructor
  · rintro ⟨before,after,hes,hafter⟩
    obtain ⟨l₁,l₂,hl,-,hcons⟩ := List.filterMap_eq_append_iff.mp hes
    obtain ⟨m₁,e,m₂,hm,-,he,rfl⟩ := List.filterMap_eq_cons_iff.mp hcons
    refine ⟨l₁++m₁,e,m₂,by simp [hl,hm],environEntry_eq_some.mp he,forall_keys_iff.mp hafter⟩
  · rintro ⟨before,e,after,hes,he,hafter⟩
    refine ⟨before.filterMap environEntry,after.filterMap environEntry,?_,forall_keys_iff.mpr hafter⟩
    rw [hes,List.filterMap_append,List.filterMap_cons,environEntry_eq_some.mpr he]

theorem toLower_of_environ {block : Bytes} {k v : String} (h : (environ block).get? k = some v) :
    k.toLower = k := by
  obtain ⟨-,-,-,-,⟨key,-,rfl⟩,-⟩ := get?_environ.mp h
  exact toLower_toLower key

end Cgroup

namespace Policy

theorem isTrackable_ofParts {name : String} (hn : name ≠ "") (c : Container) :
    (ofParts "" name).isTrackable c = true ↔ ∃ k ∈ c.env.keys,k.toLower = name.toLower := by
  have hkey : name.toLower ≠ "" := fun h => hn (toLower_eq_empty.mp h)
  simp [isTrackable,labelMatches,envMatches,ofParts,sameFolded_iff,toLower_toLower,hkey]

theorem isTrackable_ofParts_empty (c : Container) : (ofParts "" "").isTrackable c = false := by
  simp [isTrackable,labelMatches,envMatches,ofParts,toLower_empty]

/-- The case of the letters makes no difference, neither in the policy nor in the environment. -/
theorem isTrackable_recased {name name' : String} {a b : Container} (hn : name'.toLower = name.toLower)
    (hk : ∀ k,(∃ x ∈ a.env.keys,x.toLower = k) ↔ ∃ x ∈ b.env.keys,x.toLower = k) :
    (ofParts "" name').isTrackable a = (ofParts "" name).isTrackable b := by
  by_cases h : name = ""
  · have h' : name' = "" := toLower_eq_empty.mp (by rw [hn,h,toLower_empty])
    rw [h,h',isTrackable_ofParts_empty,isTrackable_ofParts_empty]
  · have h' : name' ≠ "" := fun he => h (toLower_eq_empty.mp (by rw [← hn,he,toLower_empty]))
    rw [Bool.eq_iff_iff,isTrackable_ofParts h',isTrackable_ofParts h,hn]
    exact hk _

end Policy

open Cgroup in
/-- A container with the environment of a block is tracked for a variable just if an entry of the block
spells its name before the first equals sign, up to case. Each key of the environment is in lower case, and
its value is what follows the first equals sign in the last entry that spells it, up to case. Changing the
case of letters, in the policy or in the keys of a descriptor, makes no difference to whether it is
tracked. -/
theorem environment_tracked {name : String} (hn : name ≠ "") (block : Bytes) (c : Container) :
    ((Policy.ofParts "" name).isTrackable { c with env := environ block } = true ↔
      ∃ e ∈ block.splitOn 0,∃ key value,Sets e key value ∧ key.toLower = name.toLower) ∧
    (∀ k v,(environ block).get? k = some v ↔ k.toLower = k ∧
      ∃ before e after,block.splitOn 0 = before++e :: after ∧
        (∃ key,Sets e key v ∧ key.toLower = k.toLower) ∧
        ∀ e' ∈ after,∀ key value,Sets e' key value → key.toLower ≠ k.toLower) ∧
    ∀ (name' : String) (a b : Container),name'.toLower = name.toLower →
      (∀ k,(∃ x ∈ a.env.keys,x.toLower = k) ↔ ∃ x ∈ b.env.keys,x.toLower = k) →
      (Policy.ofParts "" name').isTrackable a = (Policy.ofParts "" name).isTrackable b := by
  refine ⟨?_,fun k v => ?_,fun name' a b h hk => Policy.isTrackable_recased h hk⟩
  · rw [Policy.isTrackable_ofParts hn]
    constructor
    · rintro ⟨k,hk,hname⟩
      obtain ⟨e,he,key,value,hs,hkey⟩ := contains_environ.mp (Table.mem_keys_iff.mp hk)
      refine ⟨e,he,key,value,hs,?_⟩
      rw [← hname,← hkey,toLower_toLower]
    · rintro ⟨e,he,key,value,hs,hkey⟩
      have hk := contains_environ.mpr ⟨e,he,key,value,hs,rfl⟩
      exact ⟨key.toLower,Table.mem_keys_iff.mpr hk,by rw [toLower_toLower,hkey]⟩
  · constructor
    · intro h
      have hk := toLower_of_environ h
      rw [hk]
      exact ⟨rfl,get?_environ.mp h⟩
    · rintro ⟨hk,h⟩
      rw [hk] at h
      exact get?_environ.mpr h

def mixedBlock : Bytes := [0,0x61,0,0x54,0x72,0x41,0x43,0x4B,0x3D,0x3D,0,0xFF]

theorem environment_tracked_mixed :
    "Track" ≠ "" ∧ (Policy.ofParts "" "Track").isTrackable
      { name := "job", env := Cgroup.environ mixedBlock } = true := by
  have hs : Cgroup.Sets [0x54,0x72,0x41,0x43,0x4B,0x3D,0x3D] "TrACK" "=" :=
    ⟨by decide +kernel,by decide⟩
  refine ⟨by decide,(environment_tracked (by decide) mixedBlock { name := "job" }).1.mpr ?_⟩
  exact ⟨_,by decide,"TrACK","=",hs,toLower_eq_iff.mpr (by decide)⟩

end HostMeter
