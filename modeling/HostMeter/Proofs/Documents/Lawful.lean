import HostMeter.Json.Codec
import HostMeter.Proofs.Documents.Text
import HostMeter.Proofs.Table
set_option autoImplicit false

/-! Codecs that read back what they write. Each way of building a codec from others keeps that, so that a
record of lawful parts is lawful. -/

namespace HostMeter

namespace Origin

def Room (levels : Nat) : Origin → Prop
  | .value => True
  | .text depth => levels < depth

variable {o : Origin} {m n : Nat}

theorem Room.mono (h : o.Room n) (hm : m ≤ n) : o.Room m := by
  cases o with
  | value => trivial
  | text depth => exact Nat.lt_of_le_of_lt hm h

theorem Room.enter (h : o.Room (n+1)) : ∃ inner : Origin,o.enter = .ok inner ∧ inner.Room n := by
  cases o with
  | value => exact ⟨.value,rfl,trivial⟩
  | text depth =>
    have hd : n+1 < depth := h
    refine ⟨.text (depth-1),?_,?_⟩
    · rw [Origin.enter,if_neg (by omega)]
    · show n < depth-1
      omega

end Origin

namespace Json

mutual

def height : Json → Nat
  | .arr items => heightItems items+1
  | .obj fields => heightFields fields+1
  | _ => 0

def heightItems : List Json → Nat
  | [] => 0
  | v :: vs => max v.height (heightItems vs)

def heightFields : List (String × Json) → Nat
  | [] => 0
  | (_,v) :: fs => max v.height (heightFields fs)

end

theorem heightItems_le {n : Nat} {vs : List Json} (h : ∀ v ∈ vs,v.height ≤ n) :
    heightItems vs ≤ n := by
  induction vs with
  | nil => exact Nat.zero_le n
  | cons v vs ih =>
    exact Nat.max_le.mpr
      ⟨h v List.mem_cons_self,ih fun w hw => h w (List.mem_cons_of_mem _ hw)⟩

theorem heightFields_le {n : Nat} {fs : List (String × Json)} (h : ∀ f ∈ fs,f.2.height ≤ n) :
    heightFields fs ≤ n := by
  induction fs with
  | nil => exact Nat.zero_le n
  | cons f fs ih =>
    exact Nat.max_le.mpr
      ⟨h f List.mem_cons_self,ih fun g hg => h g (List.mem_cons_of_mem _ hg)⟩

end Json

namespace Doc

mutual

/-- A reader with room for all levels can keep a value whole. -/
theorem keeping_ofJson (v : Json) (depth : Nat) (h : v.height < depth) :
    (ofJson v).keeping depth = none := by
  match v with
  | .null | .bool _ | .int _ | .float _ | .str _ => rfl
  | .arr items =>
    simp only [Json.height] at h
    have hi := keepingItems_ofItems items (depth-1) (by omega)
    rw [ofJson,keeping,if_neg (by omega),hi]
    rfl
  | .obj fields =>
    simp only [Json.height] at h
    have hf := keepingFields_ofFields fields (depth-1) (by omega)
    rw [ofJson,keeping,if_neg (by omega),hf]
    rfl

theorem keepingItems_ofItems (vs : List Json) (depth : Nat) (h : Json.heightItems vs < depth) :
    keepingItems depth (ofItems vs) = none := by
  match vs with
  | [] => rfl
  | v :: vs =>
    simp only [Json.heightItems] at h
    rw [ofItems,keepingItems,keeping_ofJson v depth (by omega),
      keepingItems_ofItems vs depth (by omega)]
    rfl

theorem keepingFields_ofFields (fs : List (String × Json)) (depth : Nat)
    (h : Json.heightFields fs < depth) : keepingFields depth (ofFields fs) = none := by
  match fs with
  | [] => rfl
  | (k,v) :: fs =>
    simp only [Json.heightFields] at h
    rw [ofFields,keepingFields,keeping_ofJson v depth (by omega),
      keepingFields_ofFields fs depth (by omega)]
    rfl

end

mutual

theorem passing_ofJson (v : Json) : (ofJson v).passing = none := by
  match v with
  | .null | .bool _ | .int _ | .float _ | .str _ => rfl
  | .arr items => rw [ofJson,passing,passingItems_ofItems items]; rfl
  | .obj fields => rw [ofJson,passing,passingFields_ofFields fields]; rfl

theorem passingItems_ofItems (vs : List Json) : passingItems (ofItems vs) = none := by
  match vs with
  | [] => rfl
  | v :: vs => rw [ofItems,passingItems,passing_ofJson v,passingItems_ofItems vs]; rfl

theorem passingFields_ofFields (fs : List (String × Json)) : passingFields (ofFields fs) = none := by
  match fs with
  | [] => rfl
  | (k,v) :: fs => rw [ofFields,passingFields,passing_ofJson v,passingFields_ofFields fs]; rfl

end

theorem ofItems_eq_map (vs : List Json) : ofItems vs = vs.map ofJson := by
  induction vs with
  | nil => rfl
  | cons v vs ih => rw [ofItems,ih,List.map_cons]

theorem ofFields_eq_map (fs : List (String × Json)) :
    ofFields fs = fs.map fun f => (.ok f.1,ofJson f.2) := by
  induction fs with
  | nil => rfl
  | cons f fs ih => rw [ofFields,ih,List.map_cons]

variable {F : Binary64 → Prop}

theorem numericItems_iff {ds : List Doc} : NumericItems F ds ↔ ∀ d ∈ ds,d.Numeric F := by
  induction ds with
  | nil => simp [NumericItems]
  | cons d ds ih => simp [NumericItems,ih]

theorem numericFields_iff {fs : List (Except Fault String × Doc)} :
    NumericFields F fs ↔ ∀ f ∈ fs,f.2.Numeric F := by
  induction fs with
  | nil => simp [NumericFields]
  | cons f fs ih => simp [NumericFields,ih]

end Doc

/-- What a codec writes of good values is read back, has so many levels at most, and holds numbers of one
kind only. -/
structure Codec.Lawful {α : Type} (F : Binary64 → Prop) (levels : Nat) (P : α → Prop) (c : Codec α) :
    Prop where
  restores : ∀ {o : Origin} {a : α},o.Room levels → P a → c.read o (.ofJson (c.write a)) = .ok a
  height : ∀ a,(c.write a).height ≤ levels
  numeric : ∀ {a : α},P a → (Doc.ofJson (c.write a)).Numeric F

namespace Codec

variable {α β : Type} {F : Binary64 → Prop} {P : α → Prop} {Q : β → Prop} {m n : Nat} {c : Codec α}

abbrev Any : α → Prop := fun _ => True

theorem Lawful.mono (h : c.Lawful F m P) (hm : m ≤ n) : c.Lawful F n P where
  restores ho ha := h.restores (ho.mono hm) ha
  height a := Nat.le_trans (h.height a) hm
  numeric := h.numeric

theorem text_lawful : text.Lawful F 0 Any where
  restores _ _ := rfl
  height _ := Nat.le_refl 0
  numeric _ := trivial

theorem readInt_ok {name : String} {low high i : Int} (h : low ≤ i ∧ i ≤ high) :
    readInt name low high (.int i) = .ok i := by
  rw [readInt,if_pos h]

theorem readInt_nat {name : String} {limit i : Nat} (h : i < limit) :
    readInt name 0 (limit-1) (.int (i : Int)) = .ok (i : Int) := readInt_ok (by omega)

theorem numeric_nat {i : Nat} (h : i < limit64) : (Doc.ofJson (.nat i)).Numeric F := by
  show -(limit63 : Int) ≤ (i : Int) ∧ (i : Int) < limit64
  omega

theorem word32_lawful : word32.Lawful F 0 Any where
  restores {o a} _ _ := by
    have hr : readInt "u32" 0 (limit32-1) (.int (a.toNat : Int)) = .ok (a.toNat : Int) :=
      readInt_nat (UInt32.toNat_lt a)
    show (readInt "u32" 0 (limit32-1) (.int (a.toNat : Int))).map _ = _
    rw [hr]
    simp [Except.map]
  height _ := Nat.le_refl 0
  numeric {a} _ := numeric_nat (Nat.lt_trans (UInt32.toNat_lt a) (by decide))

theorem word64_lawful : word64.Lawful F 0 Any where
  restores {o a} _ _ := by
    have hr : readInt "u64" 0 (limit64-1) (.int (a.toNat : Int)) = .ok (a.toNat : Int) :=
      readInt_nat (UInt64.toNat_lt a)
    show (readInt "u64" 0 (limit64-1) (.int (a.toNat : Int))).map _ = _
    rw [hr]
    simp [Except.map]
  height _ := Nat.le_refl 0
  numeric {a} _ := numeric_nat (UInt64.toNat_lt a)

theorem toInt_bounds (a : Int64) : -(limit63 : Int) ≤ a.toInt ∧ a.toInt ≤ limit63-1 := by
  have hlt := a.toInt_lt
  have hle := a.le_toInt
  have h63 : limit63 = 2^63 := by decide
  omega

theorem int64_lawful : int64.Lawful F 0 Any where
  restores {o a} _ _ := by
    show (readInt "i64" (-limit63) (limit63-1) (.int a.toInt)).map _ = _
    rw [readInt_ok (toInt_bounds a)]
    simp [Except.map]
  height _ := Nat.le_refl 0
  numeric {a} _ := by
    have hb := toInt_bounds a
    have hl : limit63 ≤ limit64 := by decide
    show -(limit63 : Int) ≤ a.toInt ∧ a.toInt < limit64
    omega

theorem double_lawful (hF : ∀ x,F x → x.isFinite = true) : double.Lawful F 0 F where
  restores {o a} _ ha := by
    show double.read o (.ofJson (if a.isFinite then .float a else .null)) = .ok a
    rw [if_pos (hF a ha)]
    rfl
  height a := by
    show (if a.isFinite then Json.float a else .null).height ≤ 0
    split <;> exact Nat.le_refl 0
  numeric {a} ha := by
    show (Doc.ofJson (if a.isFinite then .float a else .null)).Numeric F
    rw [if_pos (hF a ha)]
    exact ha

theorem option_lawful (h : c.Lawful F n P) (hn : ∀ a,c.write a ≠ .null) :
    c.option.Lawful F n (fun o => ∀ a ∈ o,P a) where
  restores {o a} ho ha := by
    cases a with
    | none => rfl
    | some a =>
      have hr := h.restores ho (ha a rfl)
      show c.option.read o (.ofJson (c.write a)) = .ok (some a)
      cases hw : c.write a with
      | null => exact absurd hw (hn a)
      | _ =>
        rw [hw] at hr
        show (c.read o _).map some = _
        rw [hr]
        rfl
  height a := by
    cases a with
    | none => exact Nat.zero_le n
    | some a => exact h.height a
  numeric {a} ha := by
    cases a with
    | none => trivial
    | some a => exact h.numeric (ha a rfl)

theorem readItems_ok {read : Doc → Decoded α} {as : List α}
    (h : ∀ a ∈ as,read (.ofJson (c.write a)) = .ok a) :
    readItems read (Doc.ofItems (as.map c.write)) = .ok as := by
  induction as with
  | nil => rfl
  | cons a as ih =>
    rw [List.map_cons,Doc.ofItems,readItems,h a List.mem_cons_self,
      ih fun b hb => h b (List.mem_cons_of_mem _ hb)]
    rfl

theorem list_read {o inner : Origin} {items : List Doc} {stop : Option Fault}
    (h : o.enter = .ok inner) :
    c.list.read o (.seq items stop) = (readItems (c.read inner) items).bind (stopped stop) := by
  simp only [list,h]
  rfl

theorem list_lawful (h : c.Lawful F n P) : c.list.Lawful F (n+1) (fun as => ∀ a ∈ as,P a) where
  restores {o as} ho ha := by
    obtain ⟨inner,hi,hroom⟩ := ho.enter
    have hr : readItems (c.read inner) (Doc.ofItems (as.map c.write)) = .ok as :=
      readItems_ok fun a hm => h.restores hroom (ha a hm)
    show c.list.read o (.seq (Doc.ofItems (as.map c.write)) none) = .ok as
    rw [list_read hi,hr]
    rfl
  height as := by
    apply Nat.succ_le_succ
    apply Json.heightItems_le
    intro v hv
    obtain ⟨a,-,rfl⟩ := List.mem_map.mp hv
    exact h.height a
  numeric {as} ha := by
    show Doc.NumericItems F (Doc.ofItems (as.map c.write))
    rw [Doc.numericItems_iff,Doc.ofItems_eq_map]
    intro d hd
    obtain ⟨v,hv,rfl⟩ := List.mem_map.mp hd
    obtain ⟨a,hm,rfl⟩ := List.mem_map.mp hv
    exact h.numeric (ha a hm)

end Codec

theorem Table.ofList_entries {α : Type} (t : Table α) : Table.ofList t.entries = t := by
  have hfold : ∀ (es : List (String × α)) (u : Table α) (k : String),
      es.Pairwise (fun a b => a.1 < b.1) →
      (es.foldl (fun t e => t.insert e.1 e.2) u).get? k = (Table.find k es).or (u.get? k) := by
    intro es
    induction es with
    | nil => exact fun u k _ => rfl
    | cons e es ih =>
      intro u k ho
      obtain ⟨he,hes⟩ := List.pairwise_cons.mp ho
      rw [List.foldl_cons,ih _ _ hes,Table.get?_insert,Table.find]
      by_cases hk : k = e.1
      · rw [if_pos hk,if_pos hk,Table.find_eq_none_of_lt (fun f hf => hk ▸ he f hf)]
        rfl
      · rw [if_neg hk,if_neg hk]
  apply Table.ext
  intro k
  rw [Table.ofList,hfold t.entries _ k t.ordered]
  exact Option.or_none

namespace Codec

variable {α β : Type} {F : Binary64 → Prop} {P : α → Prop} {Q : β → Prop} {m n : Nat} {c : Codec α}

theorem readEntries_ok {read : Doc → Decoded α} {es : List (String × α)} (t : Table α)
    (h : ∀ e ∈ es,read (.ofJson (c.write e.2)) = .ok e.2) :
    readEntries read t (Doc.ofFields (es.map fun e => (e.1,c.write e.2))) =
      .ok (es.foldl (fun t e => t.insert e.1 e.2) t) := by
  induction es generalizing t with
  | nil => rfl
  | cons e es ih =>
    rw [List.map_cons,Doc.ofFields,readEntries,h e List.mem_cons_self]
    exact ih _ fun f hf => h f (List.mem_cons_of_mem _ hf)

theorem table_read {o inner : Origin} {fields : List (Except Fault String × Doc)}
    {stop : Option Fault} (h : o.enter = .ok inner) :
    c.table.read o (.map fields stop) =
      (readEntries (c.read inner) .empty fields).bind (stopped stop) := by
  simp only [table,h]
  rfl

theorem table_lawful (h : c.Lawful F n Any) : c.table.Lawful F (n+1) Any where
  restores {o t} ho _ := by
    obtain ⟨inner,hi,hroom⟩ := ho.enter
    have hr : readEntries (c.read inner) .empty
        (Doc.ofFields (t.entries.map fun e => (e.1,c.write e.2))) =
          .ok (t.entries.foldl (fun t e => t.insert e.1 e.2) Table.empty) :=
      readEntries_ok .empty fun e _ => h.restores hroom trivial
    have ht : t.entries.foldl (fun t e => t.insert e.1 e.2) Table.empty = t := t.ofList_entries
    rw [ht] at hr
    show c.table.read o (.map (Doc.ofFields (t.entries.map fun e => (e.1,c.write e.2))) none) = .ok t
    rw [table_read hi,hr]
    rfl
  height t := by
    apply Nat.succ_le_succ
    apply Json.heightFields_le
    intro f hf
    obtain ⟨e,-,rfl⟩ := List.mem_map.mp hf
    exact h.height e.2
  numeric {t} _ := by
    show Doc.NumericFields F (Doc.ofFields (t.entries.map fun e => (e.1,c.write e.2)))
    rw [Doc.numericFields_iff,Doc.ofFields_eq_map]
    intro d hd
    obtain ⟨f,hf,rfl⟩ := List.mem_map.mp hd
    obtain ⟨e,-,rfl⟩ := List.mem_map.mp hf
    exact h.numeric trivial

theorem mapped_lawful {out : β → α} {into : α → β} (h : c.Lawful F n P)
    (hq : ∀ b,Q b → P (out b) ∧ into (out b) = b) : (c.mapped out into).Lawful F n Q where
  restores {o b} ho hb := by
    show (c.read o (.ofJson (c.write (out b)))).map into = .ok b
    rw [h.restores ho (hq b hb).1]
    exact congrArg Except.ok (hq b hb).2
  height b := h.height (out b)
  numeric hb := h.numeric (hq _ hb).1

theorem oneOf_lawful {known : List (String × α)} {nameOf : α → String}
    (h : ∀ a,variant known (nameOf a) = .ok a) : (oneOf known nameOf).Lawful F 0 Any where
  restores {_ a} _ _ := h a
  height _ := Nat.le_refl 0
  numeric _ := trivial

theorem either_left {b : Codec β} (name : String) {o : Origin} {v : Json} {x : α} (ho : o.Room n)
    (hv : v.height ≤ n) (hn : n < limit64) (hr : c.read .value (.ofJson v) = .ok x) :
    (either name c b).read o (.ofJson v) = .ok (.inl x) := by
  cases o with
  | value => simp only [either,Doc.keeping_ofJson v limit64 (Nat.lt_of_le_of_lt hv hn),hr]
  | text depth => simp only [either,Doc.keeping_ofJson v depth (Nat.lt_of_le_of_lt hv ho),hr]

theorem either_right {b : Codec β} (name : String) {o : Origin} {v : Json} {y : β} {e : DecodeError}
    (ho : o.Room n) (hv : v.height ≤ n) (hn : n < limit64)
    (hl : c.read .value (.ofJson v) = .error e) (hr : b.read .value (.ofJson v) = .ok y) :
    (either name c b).read o (.ofJson v) = .ok (.inr y) := by
  cases o with
  | value => simp only [either,Doc.keeping_ofJson v limit64 (Nat.lt_of_le_of_lt hv hn),hl,hr]
  | text depth => simp only [either,Doc.keeping_ofJson v depth (Nat.lt_of_le_of_lt hv ho),hl,hr]

/-- Alternatives without a tag are told apart when the first cannot read what the second has written. -/
theorem either_lawful {b : Codec β} {name : String} (ha : c.Lawful F n P) (hb : b.Lawful F n Q)
    (hn : n < limit64) (hne : ∀ y,∃ e,c.read .value (.ofJson (b.write y)) = .error e) :
    (either name c b).Lawful F n (fun s => (∀ x,s = .inl x → P x) ∧ ∀ y,s = .inr y → Q y) where
  restores {o s} ho hs := by
    cases s with
    | inl x =>
      have hr : c.read .value (.ofJson (c.write x)) = .ok x :=
        ha.restores (o := .value) trivial (hs.1 x rfl)
      exact either_left name ho (ha.height x) hn hr
    | inr y =>
      obtain ⟨e,hl⟩ := hne y
      have hr : b.read .value (.ofJson (b.write y)) = .ok y :=
        hb.restores (o := .value) trivial (hs.2 y rfl)
      exact either_right name ho (hb.height y) hn hl hr
  height s := by
    cases s with
    | inl x => exact ha.height x
    | inr y => exact hb.height y
  numeric {s} hs := by
    cases s with
    | inl x => exact ha.numeric (hs.1 x rfl)
    | inr y => exact hb.numeric (hs.2 y rfl)

end Codec

end HostMeter
