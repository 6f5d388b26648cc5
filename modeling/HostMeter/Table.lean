set_option autoImplicit false

/-! Finite maps keyed by names. Entries are kept in increasing name order, so two tables that
answer every look-up alike are equal and every listing comes out sorted. -/

namespace HostMeter

theorem name_lt_of_not {a b : String} (h : ¬ a < b) (g : a ≠ b) : b < a :=
  Decidable.byContradiction fun h' =>
    g (String.le_antisymm (String.not_lt.mp h') (String.not_lt.mp h))

structure Table (α : Type) where
  entries : List (String × α)
  ordered : entries.Pairwise (fun a b => a.1 < b.1)
  deriving DecidableEq, Repr

namespace Table

variable {α β : Type}

def empty : Table α := ⟨[], .nil⟩

instance : EmptyCollection (Table α) := ⟨empty⟩
instance : Inhabited (Table α) := ⟨empty⟩

def find (k : String) : List (String × α) → Option α
  | [] => none
  | (k',v) :: rest => if k = k' then some v else find k rest

def put (k : String) (v : α) : List (String × α) → List (String × α)
  | [] => [(k,v)]
  | (k',v') :: rest =>
    if k < k' then (k,v) :: (k',v') :: rest
    else if k = k' then (k,v) :: rest
    else (k',v') :: put k v rest

theorem mem_put {k : String} {v : α} {e : String × α} {es : List (String × α)}
    (h : e ∈ put k v es) : e = (k,v) ∨ e ∈ es := by
  induction es with
  | nil => simpa [put] using h
  | cons hd tl ih =>
    obtain ⟨k',v'⟩ := hd
    rw [put] at h
    split at h
    · simpa using h
    · split at h
      · rcases List.mem_cons.mp h with h | h <;> simp [h]
      · rcases List.mem_cons.mp h with h | h
        · simp [h]
        · rcases ih h with h | h <;> simp [h]

theorem put_ordered {k : String} {v : α} {es : List (String × α)}
    (h : es.Pairwise (fun a b => a.1 < b.1)) :
    (put k v es).Pairwise (fun a b => a.1 < b.1) := by
  induction es with
  | nil => simp [put]
  | cons hd tl ih =>
    obtain ⟨k',v'⟩ := hd
    obtain ⟨hlt,htl⟩ := List.pairwise_cons.mp h
    rw [put]
    split
    next hk =>
      refine List.pairwise_cons.mpr ⟨fun e he => ?_,h⟩
      rcases List.mem_cons.mp he with rfl | he
      · exact hk
      · exact String.lt_trans hk (hlt e he)
    next hk =>
      split
      next he => subst he; exact List.pairwise_cons.mpr ⟨hlt,htl⟩
      next he =>
        refine List.pairwise_cons.mpr ⟨fun e hm => ?_,ih htl⟩
        rcases mem_put hm with rfl | hm
        · exact name_lt_of_not hk he
        · exact hlt e hm

def get? (t : Table α) (k : String) : Option α := find k t.entries
def contains (t : Table α) (k : String) : Bool := (t.get? k).isSome
def insert (t : Table α) (k : String) (v : α) : Table α := ⟨put k v t.entries,put_ordered t.ordered⟩

def filter (t : Table α) (p : String → α → Bool) : Table α :=
  ⟨t.entries.filter (fun e => p e.1 e.2),t.ordered.filter _⟩

def erase (t : Table α) (k : String) : Table α := t.filter (fun k' _ => k' ≠ k)

def map (t : Table α) (f : String → α → β) : Table β :=
  ⟨t.entries.map (fun e => (e.1,f e.1 e.2)),List.pairwise_map.mpr t.ordered⟩

def size (t : Table α) : Nat := t.entries.length
def isEmpty (t : Table α) : Bool := t.entries.isEmpty
def keys (t : Table α) : List String := t.entries.map (·.1)
def values (t : Table α) : List α := t.entries.map (·.2)

/-- Later pairs win over earlier ones of the same name. -/
def ofList (es : List (String × α)) : Table α := es.foldl (fun t e => t.insert e.1 e.2) empty

def modify (t : Table α) (k : String) (f : α → α) : Table α :=
  t.map (fun k' v => if k' = k then f v else v)

theorem find_put (k k' : String) (v : α) (es : List (String × α)) :
    find k' (put k v es) = if k' = k then some v else find k' es := by
  induction es with
  | nil => simp [put,find]
  | cons hd tl ih =>
    obtain ⟨k₀,v₀⟩ := hd
    rw [put]
    split
    · rfl
    · split
      next he => subst he; by_cases hk : k' = k <;> simp [find,hk]
      next he =>
        by_cases hk : k' = k₀
        · have hne : k' ≠ k := fun h => he (h.symm.trans hk)
          simp only [find,if_pos hk,if_neg hne]
        · simp only [find,if_neg hk,ih]

theorem find_filter_ne (k k' : String) (es : List (String × α)) :
    find k' (es.filter (fun e => e.1 ≠ k)) = if k' = k then none else find k' es := by
  induction es with
  | nil => simp [find]
  | cons hd tl ih =>
    obtain ⟨k₀,v₀⟩ := hd
    by_cases h₀ : k₀ = k
    · rw [List.filter_cons_of_neg (by simp [h₀]),ih]
      by_cases hk : k' = k
      · simp only [if_pos hk]
      · have hne : k' ≠ k₀ := fun h => hk (h.trans h₀)
        simp only [find,if_neg hk,if_neg hne]
    · rw [List.filter_cons_of_pos (by simp [h₀])]
      by_cases h₁ : k' = k₀
      · have hne : k' ≠ k := fun h => h₀ (h₁.symm.trans h)
        simp only [find,if_pos h₁,if_neg hne]
      · simp only [find,if_neg h₁,ih]

@[simp] theorem get?_empty (k : String) : (empty : Table α).get? k = none := rfl

@[simp] theorem get?_insert (t : Table α) (k k' : String) (v : α) :
    (t.insert k v).get? k' = if k' = k then some v else t.get? k' := find_put k k' v t.entries

@[simp] theorem get?_erase (t : Table α) (k k' : String) :
    (t.erase k).get? k' = if k' = k then none else t.get? k' := by
  simpa [erase,filter,get?] using find_filter_ne k k' t.entries

@[simp] theorem contains_empty (k : String) : (empty : Table α).contains k = false := rfl

@[simp] theorem contains_insert (t : Table α) (k k' : String) (v : α) :
    (t.insert k v).contains k' = (decide (k' = k) || t.contains k') := by
  by_cases h : k' = k <;> simp [contains,h]

@[simp] theorem contains_erase (t : Table α) (k k' : String) :
    (t.erase k).contains k' = (decide (k' ≠ k) && t.contains k') := by
  by_cases h : k' = k <;> simp [contains,h]

theorem find_eq_none_of_lt {k : String} {es : List (String × α)}
    (h : ∀ e ∈ es, k < e.1) : find k es = none := by
  induction es with
  | nil => rfl
  | cons hd tl ih =>
    have hne : k ≠ hd.1 := fun he => String.lt_irrefl k (by simpa [he] using h hd (by simp))
    simp [find,hne,ih (fun e he => h e (by simp [he]))]

theorem entries_eq_of_find {es fs : List (String × α)}
    (he : es.Pairwise (fun a b => a.1 < b.1)) (hf : fs.Pairwise (fun a b => a.1 < b.1))
    (h : ∀ k, find k es = find k fs) : es = fs := by
  induction es generalizing fs with
  | nil =>
    cases fs with
    | nil => rfl
    | cons f fs => simpa [find] using h f.1
  | cons e es ih =>
    cases fs with
    | nil => simpa [find] using h e.1
    | cons f fs =>
      obtain ⟨k,v⟩ := e
      obtain ⟨l,w⟩ := f
      obtain ⟨he₁,he₂⟩ := List.pairwise_cons.mp he
      obtain ⟨hf₁,hf₂⟩ := List.pairwise_cons.mp hf
      have hkl : k = l := by
        apply Decidable.byContradiction
        intro hne
        by_cases hlt : k < l
        · have := h k
          rw [@find_eq_none_of_lt α k ((l,w) :: fs)] at this
          · simp [find] at this
          · intro e' he'
            rcases List.mem_cons.mp he' with rfl | he'
            · exact hlt
            · exact String.lt_trans hlt (hf₁ _ he')
        · have hgt := name_lt_of_not hlt hne
          have := h l
          rw [@find_eq_none_of_lt α l ((k,v) :: es)] at this
          · simp [find] at this
          · intro e' he'
            rcases List.mem_cons.mp he' with rfl | he'
            · exact hgt
            · exact String.lt_trans hgt (he₁ _ he')
      subst hkl
      have hvw : v = w := by simpa [find] using h k
      subst hvw
      congr 1
      refine ih he₂ hf₂ fun k' => ?_
      by_cases hk : k' = k
      · subst hk
        rw [find_eq_none_of_lt he₁,find_eq_none_of_lt hf₁]
      · simpa [find,hk] using h k'

@[ext] theorem ext {t u : Table α} (h : ∀ k, t.get? k = u.get? k) : t = u := by
  obtain ⟨es,he⟩ := t
  obtain ⟨fs,hf⟩ := u
  have : es = fs := entries_eq_of_find he hf h
  subst this
  rfl

end Table

end HostMeter
