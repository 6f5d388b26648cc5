import HostMeter.Table
import Mathlib.Algebra.GroupWithZero.Nat
import Mathlib.Data.List.Induction
set_option autoImplicit false

/-! Look-ups in a table, the pairs it lists, and those it is made of. -/

namespace HostMeter.Table

variable {α : Type}

theorem mem_of_find {k : String} {v : α} {es : List (String × α)} (h : find k es = some v) :
    (k,v) ∈ es := by
  induction es with
  | nil => cases h
  | cons e es ih =>
    obtain ⟨k',v'⟩ := e
    by_cases hk : k = k'
    · subst hk
      simp only [find,if_true] at h
      cases h
      exact List.mem_cons_self
    · rw [find,if_neg hk] at h
      exact List.mem_cons_of_mem _ (ih h)

theorem find_of_mem {k : String} {v : α} {es : List (String × α)}
    (ho : es.Pairwise (fun a b => a.1 < b.1)) (h : (k,v) ∈ es) : find k es = some v := by
  induction es with
  | nil => cases h
  | cons e es ih =>
    obtain ⟨he,hes⟩ := List.pairwise_cons.mp ho
    rcases List.mem_cons.mp h with rfl | h
    · simp [find]
    · have hne : k ≠ e.1 := by
        intro hk
        have hlt := he (k,v) h
        rw [hk] at hlt
        exact String.lt_irrefl _ hlt
      rw [find,if_neg hne]
      exact ih hes h

theorem mem_entries_iff {t : Table α} {k : String} {v : α} :
    (k,v) ∈ t.entries ↔ t.get? k = some v := ⟨find_of_mem t.ordered,mem_of_find⟩

theorem mem_values_iff {t : Table α} {v : α} : v ∈ t.values ↔ ∃ k,t.get? k = some v := by
  unfold values
  constructor
  · intro h
    obtain ⟨⟨k,v'⟩,hm,rfl⟩ := List.mem_map.mp h
    exact ⟨k,mem_entries_iff.mp hm⟩
  · rintro ⟨k,hk⟩
    exact List.mem_map.mpr ⟨(k,v),mem_entries_iff.mpr hk,rfl⟩

theorem mem_keys_iff {t : Table α} {k : String} : k ∈ t.keys ↔ t.contains k = true := by
  unfold keys contains
  rw [List.mem_map,Option.isSome_iff_exists]
  constructor
  · rintro ⟨e,he,rfl⟩
    exact ⟨e.2,mem_entries_iff.mp he⟩
  · rintro ⟨v,hv⟩
    exact ⟨(k,v),mem_entries_iff.mpr hv,rfl⟩

theorem ofList_concat (es : List (String × α)) (e : String × α) :
    ofList (es++[e]) = (ofList es).insert e.1 e.2 := by
  simp [ofList]

theorem contains_ofList {es : List (String × α)} {k : String} :
    (ofList es).contains k = true ↔ ∃ e ∈ es,e.1 = k := by
  induction es using List.reverseRecOn with
  | nil => simp [ofList]
  | append_singleton es e ih =>
    rw [ofList_concat,contains_insert,Bool.or_eq_true,ih,decide_eq_true_eq]
    simp only [List.mem_append,List.mem_singleton,or_and_right,exists_or,exists_eq_left]
    rw [or_comm,eq_comm]

theorem concat_eq_cut {β : Type} {es before after : List β} {e x : β} :
    es++[e] = before++x :: after ↔
      after = [] ∧ es = before ∧ e = x ∨ ∃ rest,after = rest++[e] ∧ es = before++x :: rest := by
  rcases List.eq_nil_or_concat after with rfl | ⟨rest,y,rfl⟩
  · rw [List.append_singleton_inj]
    simp
  · rw [List.concat_eq_append,← List.cons_append,← List.append_assoc,List.append_singleton_inj]
    constructor
    · rintro ⟨hes,rfl⟩
      exact .inr ⟨rest,rfl,hes⟩
    · rintro (⟨h,-⟩ | ⟨rest',h,hes⟩)
      · simp at h
      · obtain ⟨rfl,rfl⟩ := List.append_singleton_inj.mp h
        exact ⟨hes,rfl⟩

theorem get?_ofList {es : List (String × α)} {k : String} {v : α} :
    (ofList es).get? k = some v ↔
      ∃ before after,es = before++(k,v) :: after ∧ ∀ e ∈ after,e.1 ≠ k := by
  induction es using List.reverseRecOn with
  | nil => simp [ofList]
  | append_singleton es e ih =>
    simp only [concat_eq_cut]
    rw [ofList_concat,get?_insert]
    split
    · rename_i hk
      constructor
      · intro h
        cases h
        exact ⟨es,[],.inl ⟨rfl,rfl,by rw [hk]⟩,by simp⟩
      · rintro ⟨before,after,⟨-,-,rfl⟩ | ⟨rest,rfl,-⟩,hafter⟩
        · rfl
        · exact absurd hk.symm (hafter e (by simp))
    · rename_i hk
      rw [ih]
      constructor
      · rintro ⟨before,after,hes,hafter⟩
        refine ⟨before,after++[e],.inr ⟨after,rfl,hes⟩,fun x hx => ?_⟩
        rcases List.mem_append.mp hx with hx | hx
        · exact hafter x hx
        · rw [List.mem_singleton.mp hx]
          exact fun he => hk he.symm
      · rintro ⟨before,after,⟨-,-,rfl⟩ | ⟨rest,rfl,hes⟩,hafter⟩
        · exact absurd rfl hk
        · exact ⟨before,rest,hes,fun y hy => hafter y (List.mem_append_left _ hy)⟩

def valueFor (k : String) (e : String × α) : Option α := if e.1 = k then some e.2 else none

theorem get?_ofList_eq_getLast? (es : List (String × α)) (k : String) :
    (ofList es).get? k = (es.filterMap (valueFor k)).getLast? := by
  induction es using List.reverseRecOn with
  | nil => rfl
  | append_singleton es e ih =>
    rw [ofList_concat,get?_insert,ih,List.filterMap_append]
    by_cases hk : e.1 = k
    · simp [valueFor,hk]
    · simp [valueFor,hk,Ne.symm hk]

theorem get?_ofList_append (es fs : List (String × α)) (k : String) :
    (ofList (es++fs)).get? k = ((ofList fs).get? k).or ((ofList es).get? k) := by
  simp only [get?_ofList_eq_getLast?]
  rw [List.filterMap_append,List.getLast?_append]

theorem sum_put {k : String} {es : List (String × Nat)}
    (ho : es.Pairwise (fun a b => a.1 < b.1)) (v : Nat) :
    ((put k v es).map (·.2)).sum+(find k es).getD 0 = (es.map (·.2)).sum+v := by
  induction es with
  | nil => simp [put,find]
  | cons e es ih =>
    obtain ⟨k',v'⟩ := e
    obtain ⟨he,hes⟩ := List.pairwise_cons.mp ho
    rw [put]
    split
    · rename_i hk
      have hnone : find k ((k',v') :: es) = none := by
        refine find_eq_none_of_lt fun e hm => ?_
        rcases List.mem_cons.mp hm with rfl | hm
        · exact hk
        · exact String.lt_trans hk (he e hm)
      rw [hnone,List.map_cons,List.sum_cons,Option.getD_none]
      omega
    · split
      · rename_i hk
        subst hk
        simp only [find,if_true,Option.getD_some,List.map_cons,List.sum_cons]
        omega
      · rename_i hk
        have hi := ih hes
        simp only [find,if_neg hk,List.map_cons,List.sum_cons]
        omega

theorem sum_insert (t : Table Nat) (k : String) (v : Nat) :
    (t.insert k v).values.sum+(t.get? k).getD 0 = t.values.sum+v := sum_put t.ordered v

end HostMeter.Table
