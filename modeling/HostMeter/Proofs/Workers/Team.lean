import Mathlib.Algebra.GroupWithZero.Nat
set_option autoImplicit false

/-! Workers on one state. Each has come so far with something of its own. One of them goes on at a time,
in any order. -/

namespace HostMeter

structure Team (τ σ : Type) where
  state : σ
  members : List τ

namespace Team

variable {τ σ : Type} {f : τ → σ → τ × σ} {t : Team τ σ} {ws : List τ} {i : Nat} {w w' : τ}
  {s s' : σ}

def step (f : τ → σ → τ × σ) (i : Nat) (t : Team τ σ) : Team τ σ :=
  match t.members[i]? with
  | none => t
  | some w => ⟨(f w t.state).2,t.members.set i (f w t.state).1⟩

theorem step_some (h : t.members[i]? = some w) :
    t.step f i = ⟨(f w t.state).2,t.members.set i (f w t.state).1⟩ := by
  simp only [step,h]

theorem step_none (h : t.members[i]? = none) : t.step f i = t := by
  simp only [step,h]

theorem length_step (f : τ → σ → τ × σ) (i : Nat) (t : Team τ σ) :
    (t.step f i).members.length = t.members.length := by
  unfold step
  split
  · rfl
  · exact List.length_set

/-- One worker, with nobody in between. -/
def alone (f : τ → σ → τ × σ) : Nat → τ → σ → τ × σ
  | 0,w,s => (w,s)
  | k+1,w,s => alone f k (f w s).1 (f w s).2

theorem alone_step (h : f w s = (w',s')) (k : Nat) : alone f (k+1) w s = alone f k w' s' := by
  rw [alone,h]

theorem alone_add {j : Nat} (h : alone f j w s = (w',s')) (k : Nat) :
    alone f (j+k) w s = alone f k w' s' := by
  induction j generalizing w s with
  | zero =>
    cases h
    rw [Nat.zero_add]
  | succ j ih =>
    rw [Nat.add_right_comm]
    exact ih h

theorem alone_idle (h : f w s = (w,s)) (k : Nat) : alone f k w s = (w,s) := by
  induction k with
  | zero => rfl
  | succ k ih => rw [alone_step h,ih]

theorem foldl_replicate {μ : Type} {take : Team τ σ → μ → Team τ σ} {x : μ}
    (hx : ∀ t,take t x = t.step f i) (h : t.members[i]? = some w) (k : Nat) :
    (List.replicate k x).foldl take t =
      ⟨(alone f k w t.state).2,t.members.set i (alone f k w t.state).1⟩ := by
  induction k generalizing w t with
  | zero =>
    obtain ⟨hlt,rfl⟩ := List.getElem?_eq_some_iff.mp h
    simp only [List.replicate_zero,List.foldl_nil,alone,List.set_getElem_self]
  | succ k ih =>
    obtain ⟨hlt,-⟩ := List.getElem?_eq_some_iff.mp h
    rw [List.replicate_succ,List.foldl_cons,hx,step_some h,ih (List.getElem?_set_self hlt)]
    simp only [List.set_set,alone]

theorem mem_set_self (h : ws[i]? = some w) : w' ∈ ws.set i w' :=
  List.mem_set (List.getElem?_eq_some_iff.mp h).1 w'

theorem mem_set_of_ne {x : τ} (h : ws[i]? = some w) (hx : x ∈ ws) (hne : x ≠ w) :
    x ∈ ws.set i w' := by
  obtain ⟨j,hj⟩ := List.mem_iff_getElem?.mp hx
  have hij : i ≠ j := by
    rintro rfl
    rw [h] at hj
    exact hne (Option.some.inj hj).symm
  exact List.mem_iff_getElem?.mpr ⟨j,by rw [List.getElem?_set_ne hij,hj]⟩

theorem of_getElem?_set {j : Nat} {x : τ} (h : (ws.set i w')[j]? = some x) :
    j = i ∧ x = w' ∨ j ≠ i ∧ ws[j]? = some x := by
  by_cases hne : i = j
  · subst hne
    rw [List.getElem?_set_self'] at h
    obtain ⟨y,-,rfl⟩ := Option.map_eq_some_iff.mp h
    exact .inl ⟨rfl,rfl⟩
  · rw [List.getElem?_set_ne hne] at h
    exact .inr ⟨fun hj => hne hj.symm,h⟩

/-- What is counted on one side has its like at the same place on the other. -/
theorem countP_le_of_places {α β : Type} {p : α → Bool} {q : β → Bool} {as : List α} {bs : List β}
    (h : ∀ (i : Nat) a,as[i]? = some a → p a = true → ∃ b,bs[i]? = some b ∧ q b = true) :
    as.countP p ≤ bs.countP q := by
  induction as generalizing bs with
  | nil => exact Nat.zero_le _
  | cons a as ih =>
    cases bs with
    | nil =>
      have hnone : ∀ x ∈ a :: as,¬p x = true := by
        intro x hx hp
        obtain ⟨i,hi⟩ := List.mem_iff_getElem?.mp hx
        obtain ⟨b,hb,-⟩ := h i x hi hp
        cases hb
      rw [List.countP_eq_zero.mpr hnone]
      exact Nat.zero_le _
    | cons b bs =>
      have hrest := ih fun i x hx hp => h (i+1) x hx hp
      rw [List.countP_cons,List.countP_cons]
      by_cases ha : p a = true
      · obtain ⟨b',hb,hq⟩ := h 0 a rfl ha
        obtain rfl : b = b' := Option.some.inj hb
        rw [if_pos ha,if_pos hq]
        omega
      · rw [if_neg ha]
        omega

theorem countP_set_add (p : τ → Bool) (h : ws[i]? = some w) (w' : τ) :
    (ws.set i w').countP p+(p w).toNat = ws.countP p+(p w').toNat := by
  obtain ⟨hi,rfl⟩ := List.getElem?_eq_some_iff.mp h
  have hpos : p ws[i] = true → 0 < ws.countP p := fun hp =>
    List.countP_pos_iff.mpr ⟨ws[i],List.getElem_mem hi,hp⟩
  rw [List.countP_set hi]
  cases hp : p ws[i] with
  | false => cases p w' <;> simp
  | true =>
    have hlt := hpos hp
    cases p w' <;> simp <;> omega

theorem countP_filterMap_set_add {α : Type} (part : τ → Option α) (p : α → Bool)
    (h : ws[i]? = some w) (w' : τ) :
    ((ws.set i w').filterMap part).countP p+(part w).toList.countP p =
      (ws.filterMap part).countP p+(part w').toList.countP p := by
  have hpart : ∀ x,(part x).toList.countP p = (((part x).map p).getD false).toNat := by
    intro x
    cases part x with
    | none => rfl
    | some a => cases hp : p a <;> simp [hp]
  rw [List.countP_filterMap,List.countP_filterMap,hpart,hpart]
  exact countP_set_add _ h w'

/-- What a worker adds to a sum it adds with what it leaves to be added. -/
theorem add_countP_set {p : τ → Bool} {x x' y k : Nat} (h : ws[i]? = some w) (w' : τ)
    (hx : x+ws.countP p = y) (hw : x'+(p w').toNat = x+(p w).toNat+k) :
    x'+(ws.set i w').countP p = y+k := by
  have hset := countP_set_add p h w'
  omega

theorem add_countP_filterMap_set {α : Type} {part : τ → Option α} {p : α → Bool} {x x' y k : Nat}
    (h : ws[i]? = some w) (w' : τ) (hx : x+(ws.filterMap part).countP p = y)
    (hw : x'+(part w').toList.countP p = x+(part w).toList.countP p+k) :
    x'+((ws.set i w').filterMap part).countP p = y+k := by
  have hset := countP_filterMap_set_add part p h w'
  omega

theorem sum_set_add (effort : τ → Nat) (h : ws[i]? = some w) (w' : τ) :
    ((ws.set i w').map effort).sum+effort w = (ws.map effort).sum+effort w' := by
  induction ws generalizing i with
  | nil => cases h
  | cons x ws ih =>
    cases i with
    | zero =>
      cases h
      simp only [List.set_cons_zero,List.map_cons,List.sum_cons]
      omega
    | succ i =>
      have hi := ih h
      simp only [List.set_cons_succ,List.map_cons,List.sum_cons]
      omega

end Team

end HostMeter
