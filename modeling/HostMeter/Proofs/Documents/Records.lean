import HostMeter.Proofs.Documents.Lawful
set_option autoImplicit false

/-! Records with lawful slots are lawful: each field that is written finds its own slot again, and a field
that is left out is the one that its slot assumes. -/

namespace HostMeter

/-- A slot for good values of a lawful codec, which leaves out only what it assumes when absent. -/
structure Slot.Lawful {α : Type} (F : Binary64 → Prop) (levels : Nat) (P : α → Prop) (slot : Slot α) :
    Prop where
  codec : slot.codec.Lawful F levels P
  absent : ∀ a,slot.isOmitted a = true → slot.absent = some a

namespace Slot

variable {α : Type} {F : Binary64 → Prop} {P : α → Prop} {n : Nat} {c : Codec α} {name : String}

theorem required_lawful (h : c.Lawful F n P) : (required name c).Lawful F n P where
  codec := h
  absent _ ha := by cases ha

theorem defaulted_lawful {a : α} (h : c.Lawful F n P) : (defaulted name c a).Lawful F n P where
  codec := h
  absent _ ha := by cases ha

theorem optional_lawful (h : c.Lawful F n P) (hn : ∀ a,c.write a ≠ .null) :
    (optional name c).Lawful F n (fun o => ∀ a ∈ o,P a) where
  codec := Codec.option_lawful h hn
  absent a ha := by
    cases a with
    | none => rfl
    | some a => cases ha

theorem nullable_lawful (h : c.Lawful F n P) (hn : ∀ a,c.write a ≠ .null) :
    (nullable name c).Lawful F n (fun o => ∀ a ∈ o,P a) where
  codec := Codec.option_lawful h hn
  absent _ ha := by cases ha

theorem listing_lawful (h : c.Lawful F n P) :
    (listing name c).Lawful F (n+1) (fun as => ∀ a ∈ as,P a) where
  codec := Codec.list_lawful h
  absent as ha := by
    cases as with
    | nil => rfl
    | cons a as => cases ha

end Slot

namespace Slots

variable {γ δ : Type} {F : Binary64 → Prop} {n : Nat}

def names {γ δ : Type} : Slots γ δ → List String
  | .done => []
  | .more slot rest => slot.name :: rest.names

/-- Lawful slots of different names, and the good values of all of them together. -/
inductive Lawful (F : Binary64 → Prop) (levels : Nat) :
    {γ δ : Type} → Slots γ δ → (γ → Prop) → Prop where
  | done : Lawful F levels .done (fun _ => True)
  | more {α γ δ : Type} {slot : Slot α} {rest : Slots γ δ} {P : α → Prop} {Q : γ → Prop}
      (head : slot.Lawful F levels P) (fresh : slot.name ∉ rest.names)
      (tail : Lawful F levels rest Q) :
      Lawful F levels (.more slot rest) (fun r => P r.1 ∧ Q r.2)

def filled {γ δ : Type} : Slots γ δ → γ → δ
  | .done,_ => ()
  | .more slot rest,(a,r) => (if slot.isOmitted a then none else some a,rest.filled r)

theorem names_write {γ δ : Type} (ss : Slots γ δ) (r : γ) : ∀ f ∈ ss.write r,f.1 ∈ ss.names := by
  induction ss with
  | done => simp [write]
  | more slot rest ih =>
    intro f hf
    rw [write] at hf
    split at hf
    · exact List.mem_cons_of_mem _ (ih r.2 f hf)
    · rcases List.mem_cons.mp hf with rfl | hf
      · exact List.mem_cons_self
      · exact List.mem_cons_of_mem _ (ih r.2 f hf)

theorem readFields_skip {α γ δ : Type} {slot : Slot α} {rest : Slots γ δ} {o : Origin} {x : Option α}
    {draft : δ} {fs : List (String × Json)} (h : ∀ f ∈ fs,f.1 ≠ slot.name) :
    (more slot rest).readFields o (x,draft) (Doc.ofFields fs) =
      (rest.readFields o draft (Doc.ofFields fs)).map (x,·) := by
  induction fs generalizing draft with
  | nil => rfl
  | cons f fs ih =>
    have hk : f.1 ≠ slot.name := h f List.mem_cons_self
    have ih := fun draft => @ih draft fun g hg => h g (List.mem_cons_of_mem _ hg)
    simp only [Doc.ofFields,readFields,fill,if_neg hk]
    cases hr : rest.fill o f.1 (.ofJson f.2) draft with
    | error e => rfl
    | ok r =>
      cases r with
      | some draft => exact ih draft
      | none =>
        simp only [Except.map,Option.map,Doc.passing_ofJson]
        exact ih draft

theorem readFields_write {γ δ : Type} {ss : Slots γ δ} {Q : γ → Prop} (h : Lawful F n ss Q) {o : Origin}
    (ho : o.Room n) {r : γ} (hr : Q r) :
    ss.readFields o ss.blank (Doc.ofFields (ss.write r)) = .ok (ss.filled r) := by
  induction h with
  | done => rfl
  | @more α γ δ slot rest P Q head fresh tail ih =>
    obtain ⟨a,r⟩ := r
    have hskip : ∀ f ∈ rest.write r,f.1 ≠ slot.name :=
      fun f hf hk => fresh (hk ▸ names_write rest r f hf)
    cases hm : slot.isOmitted a with
    | true =>
      simp only [write,hm,if_true,blank,filled]
      rw [readFields_skip hskip,ih hr.2]
      rfl
    | false =>
      have ha := head.codec.restores ho hr.1
      simp only [write,hm,Bool.false_eq_true,if_false,blank,filled,Doc.ofFields,readFields,fill,if_true,
        ha,Except.map]
      rw [readFields_skip hskip,ih hr.2]
      rfl

theorem finish_filled {γ δ : Type} {ss : Slots γ δ} {Q : γ → Prop} (h : Lawful F n ss Q) (r : γ) :
    ss.finish (ss.filled r) = .ok r := by
  induction h with
  | done => rfl
  | @more α γ δ slot rest P Q head fresh tail ih =>
    obtain ⟨a,r⟩ := r
    have ha : (if slot.isOmitted a then none else some a).or slot.absent = some a := by
      cases hm : slot.isOmitted a with
      | true => exact head.absent a hm
      | false => rfl
    simp only [filled,finish,ha,ih,Except.map]

theorem height_write {γ δ : Type} {ss : Slots γ δ} {Q : γ → Prop} (h : Lawful F n ss Q) (r : γ) :
    ∀ f ∈ ss.write r,f.2.height ≤ n := by
  induction h with
  | done => simp [write]
  | @more α γ δ slot rest P Q head fresh tail ih =>
    intro f hf
    rw [write] at hf
    split at hf
    · exact ih r.2 f hf
    · rcases List.mem_cons.mp hf with rfl | hf
      · exact head.codec.height r.1
      · exact ih r.2 f hf

theorem numeric_write {γ δ : Type} {ss : Slots γ δ} {Q : γ → Prop} (h : Lawful F n ss Q) {r : γ}
    (hr : Q r) : ∀ f ∈ ss.write r,(Doc.ofJson f.2).Numeric F := by
  induction h with
  | done => simp [write]
  | @more α γ δ slot rest P Q head fresh tail ih =>
    intro f hf
    rw [write] at hf
    split at hf
    · exact ih hr.2 f hf
    · rcases List.mem_cons.mp hf with rfl | hf
      · exact head.codec.numeric hr.1
      · exact ih hr.2 f hf

end Slots

namespace Codec

variable {α γ δ : Type} {F : Binary64 → Prop} {P : α → Prop} {Q : γ → Prop} {n : Nat}
  {name : String} {ss : Slots γ δ} {out : α → γ} {into : γ → α}

theorem record_read {o inner : Origin} {fields : List (Except Fault String × Doc)}
    (h : o.enter = .ok inner) :
    (record name ss out into).read o (.map fields none) =
      (ss.readFields inner ss.blank fields).bind (fun draft => (ss.finish draft).map into) := by
  simp only [record,h]
  rfl

theorem record_lawful (h : ss.Lawful F n Q) (hinto : ∀ a,into (out a) = a) (hq : ∀ a,P a → Q (out a)) :
    (record name ss out into).Lawful F (n+1) P where
  restores {o a} ho ha := by
    obtain ⟨inner,hi,hroom⟩ := ho.enter
    show (record name ss out into).read o (.map (Doc.ofFields (ss.write (out a))) none) = .ok a
    rw [record_read hi,Slots.readFields_write h hroom (hq a ha)]
    show (ss.finish (ss.filled (out a))).map into = .ok a
    rw [Slots.finish_filled h,Except.map,hinto]
  height a := Nat.succ_le_succ (Json.heightFields_le (Slots.height_write h (out a)))
  numeric {a} ha := by
    show Doc.NumericFields F (Doc.ofFields (ss.write (out a)))
    rw [Doc.numericFields_iff,Doc.ofFields_eq_map]
    intro d hd
    obtain ⟨f,hf,rfl⟩ := List.mem_map.mp hd
    exact Slots.numeric_write h (hq a ha) f hf

theorem record_write_ne_null (a : α) : (record name ss out into).write a ≠ .null := by
  intro h
  cases h

theorem record_missing {β : Type} {slot : Slot β} (hs : slot.absent = none) {out : α → β × γ}
    {into : β × γ → α} {fs : List (String × Json)} (h : ∀ f ∈ fs,f.1 ≠ slot.name) :
    ∃ e,(record name (.more slot ss) out into).read .value (.ofJson (.obj fs)) = .error e := by
  show ∃ e,(record name (.more slot ss) out into).read .value (.map (Doc.ofFields fs) none) = .error e
  rw [record_read (show Origin.value.enter = .ok .value from rfl),Slots.blank,Slots.readFields_skip h]
  cases ss.readFields .value ss.blank (Doc.ofFields fs) with
  | error e => exact ⟨e,rfl⟩
  | ok draft =>
    refine ⟨.missingField slot.name,?_⟩
    simp [Except.map,Except.bind,Slots.finish,hs]

end Codec

end HostMeter
