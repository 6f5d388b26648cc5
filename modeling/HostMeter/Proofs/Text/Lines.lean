import HostMeter.Text.Blank
import Mathlib.Data.List.Forall2
import Mathlib.Data.List.TakeWhile
set_option autoImplicit false

/-! Words of a line and lines of a text. A line has certain words just if it spells them with blanks in
between; a reader that goes through a text line by line sees the lines that the text is written with, whether
or not a line feed ends the last of them. -/

namespace HostMeter.Text

variable {α β : Type} {c sep : Char} {a b cs gap w rest : List Char} {ls ws : List (List Char)}

def Blanks (cs : List Char) : Prop := ∀ c ∈ cs,isBlank c = true

def IsWord (cs : List Char) : Prop := cs ≠ [] ∧ ∀ c ∈ cs,isBlank c = false

instance (cs : List Char) : Decidable (Blanks cs) :=
  List.decidableBAll (fun c => isBlank c = true) cs

instance (cs : List Char) : Decidable (IsWord cs) :=
  have := List.decidableBAll (fun c => isBlank c = false) cs
  inferInstanceAs (Decidable (cs ≠ [] ∧ _))

/-- These words in their order, at least one blank between any two, and blanks or nothing around them. -/
inductive Spaced : List (List Char) → List Char → Prop
  | blanks {gap : List Char} : Blanks gap → Spaced [] gap
  | word {gap w rest : List Char} {ws : List (List Char)} : Blanks gap → IsWord w → Spaced ws rest →
      (∀ c ∈ rest.head?,isBlank c = true) → Spaced (w :: ws) (gap++(w++rest))

theorem splitAll_eq (p : Char → Bool) (cs : List Char) : splitAll p cs = cs.splitOnP p := by
  induction cs with
  | nil => rfl
  | cons c cs ih =>
    rw [splitAll,List.splitOnP_cons_eq_if_modifyHead,← ih]
    by_cases hc : p c = true
    · simp [hc]
    · cases h : splitAll p cs with
      | nil => exact absurd (ih.symm.trans h) (List.splitOnP_ne_nil p cs)
      | cons piece pieces => simp [hc]

theorem words_append_cons (h : isBlank c = true) : words (a++c :: b) = words a++words b := by
  simp only [words,splitAll_eq]
  rw [List.splitOnP_append_cons a b h,List.filter_append]

theorem words_blanks_append (h : Blanks gap) (cs : List Char) : words (gap++cs) = words cs := by
  induction gap with
  | nil => rfl
  | cons c gap ih =>
    obtain ⟨hc,hgap⟩ := List.forall_mem_cons.mp h
    exact (words_append_cons (a := []) hc).trans (ih hgap)

theorem words_blanks (h : Blanks gap) : words gap = [] :=
  (congrArg words (List.append_nil gap).symm).trans (words_blanks_append h [])

theorem words_append_blanks (h : Blanks gap) : words (cs++gap) = words cs := by
  cases gap with
  | nil => rw [List.append_nil]
  | cons c gap =>
    obtain ⟨hc,hgap⟩ := List.forall_mem_cons.mp h
    rw [words_append_cons hc,words_blanks hgap,List.append_nil]

theorem words_word_append (hw : IsWord w) (hrest : ∀ c ∈ rest.head?,isBlank c = true) :
    words (w++rest) = w :: words rest := by
  have hself : words w = [w] := by
    rw [words,splitAll_eq,List.splitOnP_eq_singleton hw.2]
    simp [hw.1]
  cases rest with
  | nil => rw [List.append_nil,hself]; rfl
  | cons c rest =>
    have hc : isBlank c = true := hrest c rfl
    rw [words_append_cons hc,hself]
    exact congrArg (w :: ·) (words_append_cons (a := []) hc).symm

theorem Spaced.words_eq (h : Spaced ws cs) : words cs = ws := by
  induction h with
  | blanks hgap => exact words_blanks hgap
  | word hgap hw _ hrest ih => rw [words_blanks_append hgap,words_word_append hw hrest,ih]

theorem Spaced.exists_cons (h : Spaced ws cs) (c : Char) : ∃ ws',Spaced ws' (c :: cs) := by
  by_cases hc : isBlank c = true
  · cases h with
    | blanks hgap => exact ⟨[],.blanks (List.forall_mem_cons.mpr ⟨hc,hgap⟩)⟩
    | word hgap hw hws hrest =>
      exact ⟨_,.word (List.forall_mem_cons.mpr ⟨hc,hgap⟩) hw hws hrest⟩
  · have hc : isBlank c = false := Bool.not_eq_true _ ▸ hc
    have hnil : Blanks [] := fun _ h => nomatch h
    have hone : IsWord [c] := ⟨List.cons_ne_nil _ _,by simpa using hc⟩
    by_cases hcs : ∀ x ∈ cs.head?,isBlank x = true
    · exact ⟨[c] :: ws,.word hnil hone h hcs⟩
    · cases h with
      | blanks hgap => exact absurd (fun x hx => hgap x (List.mem_of_mem_head? hx)) hcs
      | @word gap w rest ws hgap hw hws hrest =>
        cases gap with
        | nil =>
          have hlonger : IsWord (c :: w) := ⟨List.cons_ne_nil _ _,List.forall_mem_cons.mpr ⟨hc,hw.2⟩⟩
          exact ⟨(c :: w) :: ws,.word hnil hlonger hws hrest⟩
        | cons g gap =>
          refine absurd (fun x hx => ?_) hcs
          cases hx
          exact hgap g List.mem_cons_self

theorem words_eq_iff : words cs = ws ↔ Spaced ws cs := by
  refine ⟨?_,Spaced.words_eq⟩
  rintro rfl
  -- A line spells some words, and by the other direction they are those that are read.
  have hex : ∃ ws,Spaced ws cs := by
    induction cs with
    | nil => exact ⟨[],.blanks fun _ h => nomatch h⟩
    | cons c cs ih =>
      obtain ⟨ws,hws⟩ := ih
      exact hws.exists_cons c
  obtain ⟨ws,hws⟩ := hex
  rwa [hws.words_eq]

instance (ws : List (List Char)) (cs : List Char) : Decidable (Spaced ws cs) :=
  decidable_of_iff (words cs = ws) words_eq_iff

theorem trimStart_append_cons (h : isBlank sep = false) :
    trimStart (a++sep :: b) = trimStart a++sep :: b := by
  unfold trimStart
  rw [List.dropWhile_append]
  cases ha : a.dropWhile isBlank <;> simp [h]

theorem trimStart_gap (hgap : Blanks gap) (hw : IsWord w) : trimStart (gap++w) = w := by
  rw [trimStart,List.dropWhile_append_of_pos hgap]
  cases w with
  | nil => exact absurd rfl hw.1
  | cons c w => simp [hw.2 c List.mem_cons_self]

theorem trimEnd_eq (cs : List Char) : trimEnd cs = (trimStart cs.reverse).reverse := rfl

theorem trimEnd_append_cons (h : isBlank sep = false) :
    trimEnd (a++sep :: b) = a++sep :: trimEnd b := by
  have hrev : (a++sep :: b).reverse = b.reverse++sep :: a.reverse := by simp
  rw [trimEnd_eq,hrev,trimStart_append_cons h,trimEnd_eq]
  simp

theorem trim_append_cons (h : isBlank sep = false) :
    trim (a++sep :: b) = trimStart a++sep :: trimEnd b := by
  rw [trim,trimStart_append_cons h,trimEnd_append_cons h]

theorem trim_append_singleton (h : isBlank c = true) : trim (cs++[c]) = trim cs := by
  have hend : ∀ x,trimEnd (x++[c]) = trimEnd x := fun x => by simp [trimEnd,h]
  unfold trim trimStart
  rw [List.dropWhile_append]
  cases hcs : cs.dropWhile isBlank with
  | nil => simp [h]
  | cons x xs => exact hend (x :: xs)

theorem mem_of_mem_trim (h : c ∈ trim cs) : c ∈ cs := by
  have hend := List.dropWhile_subset _ (List.mem_reverse.mp h)
  exact List.dropWhile_subset _ (List.mem_reverse.mp hend)

theorem words_trimEnd (cs : List Char) : words (trimEnd cs) = words cs := by
  have hgap : Blanks (cs.reverse.takeWhile isBlank).reverse := fun c hc =>
    List.mem_takeWhile_imp (List.mem_reverse.mp hc)
  have hcs : trimEnd cs++(cs.reverse.takeWhile isBlank).reverse = cs := by
    rw [trimEnd,← List.reverse_append,List.takeWhile_append_dropWhile,List.reverse_reverse]
  rw [← words_append_blanks hgap,hcs]

theorem trim_eq_nil_iff : trim cs = [] ↔ Blanks cs := by
  constructor
  · intro h
    rw [trim,trimEnd,List.reverse_eq_nil_iff,List.dropWhile_eq_nil_iff] at h
    have hhead := List.head?_dropWhile_not isBlank cs
    unfold trimStart at h
    cases hcs : cs.dropWhile isBlank with
    | nil => exact List.dropWhile_eq_nil_iff.mp hcs
    | cons c rest =>
      rw [hcs] at h hhead
      have hc := h c (List.mem_reverse.mpr List.mem_cons_self)
      simp [hc] at hhead
  · intro h
    rw [trim,trimStart,List.dropWhile_eq_nil_iff.mpr h]
    rfl

theorem splitOnce_eq_none : splitOnce sep cs = none ↔ sep ∉ cs := by
  induction cs with
  | nil => simp [splitOnce]
  | cons c cs ih =>
    by_cases hc : c = sep
    · simp [splitOnce,hc]
    · simp [splitOnce,hc,ih,Ne.symm hc]

theorem dropReturn_cases (cs : List Char) : dropReturn cs = cs ∨ cs = dropReturn cs++['\r'] := by
  unfold dropReturn
  split
  · rename_i h
    exact .inr (List.dropLast_append_getLast? _ h).symm
  · exact .inl rfl

theorem words_dropReturn (cs : List Char) : words (dropReturn cs) = words cs := by
  rcases dropReturn_cases cs with h | h
  · rw [h]
  · have hgap : Blanks ['\r'] := by decide
    conv_rhs => rw [h]
    rw [words_append_blanks hgap]

theorem trim_dropReturn (cs : List Char) : trim (dropReturn cs) = trim cs := by
  rcases dropReturn_cases cs with h | h
  · rw [h]
  · conv_rhs => rw [h]
    rw [trim_append_singleton (by decide)]

section

variable {f : List Char → Option α}

/-- For a reader that passes over an empty line and does not mind a carriage return, the lines of a text are
what stands between its line feeds. -/
theorem filterMap_lines (hnil : f [] = none) (hret : ∀ l,f (dropReturn l) = f l) (k : Nat)
    (cs : List Char) :
    ((lines cs).drop k).filterMap f = ((cs.splitOn '\n').drop k).filterMap f := by
  obtain ⟨init,last,hpieces⟩ := (List.eq_nil_or_concat' _).resolve_left (List.splitOn_ne_nil '\n' cs)
  have hall : ∀ xs : List (List Char),(xs.map dropReturn).filterMap f = xs.filterMap f := fun xs => by
    rw [List.filterMap_map]
    exact congrArg (fun g => xs.filterMap g) (funext hret)
  -- What follows the last line feed is a line only when there is something, and keeps its carriage return.
  have hlast : ∀ j,(((some last).filter (· ≠ [])).toList.drop j).filterMap f =
      ([last].drop j).filterMap f := by
    intro j
    by_cases hl : last = []
    · subst hl
      cases j <;> simp [Option.filter_some,hnil]
    · simp [Option.filter_some,hl]
  rw [lines,splitAll_eq,← List.splitOn_eq_splitOnP,hpieces,List.dropLast_concat,List.getLast?_concat,
    List.drop_append,List.drop_append,List.filterMap_append,List.filterMap_append,← List.map_drop,hall,
    List.length_map,hlast]

/-- A text is written with these lines: a line feed ends every one of them, or every one but the last. -/
structure HasLines (cs : List Char) (ls : List (List Char)) : Prop where
  feedless : ∀ l ∈ ls,'\n' ∉ l
  ends : cs = ls.flatMap (·++['\n']) ∨ cs++['\n'] = ls.flatMap (·++['\n'])

instance (cs : List Char) (ls : List (List Char)) : Decidable (HasLines cs ls) :=
  decidable_of_iff ((∀ l ∈ ls,'\n' ∉ l) ∧
      (cs = ls.flatMap (·++['\n']) ∨ cs++['\n'] = ls.flatMap (·++['\n'])))
    ⟨fun h => ⟨h.1,h.2⟩,fun h => ⟨h.feedless,h.ends⟩⟩

theorem splitOn_flatMap (h : ∀ l ∈ ls,'\n' ∉ l) :
    (ls.flatMap (·++['\n'])).splitOn '\n' = ls++[[]] := by
  induction ls with
  | nil => rfl
  | cons l ls ih =>
    obtain ⟨hl,hls⟩ := List.forall_mem_cons.mp h
    rw [List.flatMap_cons,List.append_assoc,List.singleton_append,
      List.splitOn_append_cons_self_of_not_mem hl,ih hls,List.cons_append]

theorem HasLines.splitOn_eq (h : HasLines cs ls) :
    cs.splitOn '\n' = ls++[[]] ∨ cs.splitOn '\n' = ls := by
  have hls := splitOn_flatMap h.feedless
  rcases h.ends with hcs | hcs
  · exact .inl (hcs ▸ hls)
  · rw [← hcs,List.splitOn_append_cons_self,List.splitOn_nil] at hls
    exact .inr (List.append_cancel_right hls)

theorem HasLines.filterMap_lines (h : HasLines cs ls) (hnil : f [] = none)
    (hret : ∀ l,f (dropReturn l) = f l) (k : Nat) :
    ((lines cs).drop k).filterMap f = (ls.drop k).filterMap f := by
  rw [Text.filterMap_lines hnil hret]
  rcases h.splitOn_eq with hs | hs
  · rw [hs,List.drop_append,List.filterMap_append]
    cases k - ls.length <;> simp [hnil]
  · rw [hs]

end

/-- Two lists are the same, in the same order, when elements of a kind are left out. -/
inductive DifferBy (p : α → Prop) : List α → List α → Prop
  | nil : DifferBy p [] []
  | same {xs ys : List α} (x : α) : DifferBy p xs ys → DifferBy p (x :: xs) (x :: ys)
  | left {xs ys : List α} {x : α} : p x → DifferBy p xs ys → DifferBy p (x :: xs) ys
  | right {xs ys : List α} {y : α} : p y → DifferBy p xs ys → DifferBy p xs (y :: ys)

theorem DifferBy.filterMap_eq {p : α → Prop} {xs ys : List α} {f : α → Option β} (h : DifferBy p xs ys)
    (hf : ∀ x,p x → f x = none) : xs.filterMap f = ys.filterMap f := by
  induction h with
  | nil => rfl
  | same x _ ih => rw [List.filterMap_cons,List.filterMap_cons,ih]
  | left hx _ ih => rw [List.filterMap_cons,hf _ hx,ih]
  | right hy _ ih => rw [List.filterMap_cons,hf _ hy,ih]

theorem filterMap_eq_of_forall₂ {γ : Type} {r : α → β → Prop} {xs : List α} {ys : List β}
    {f : β → Option γ} {g : α → Option γ} (h : List.Forall₂ r xs ys) (hfg : ∀ x y,r x y → f y = g x) :
    ys.filterMap f = xs.filterMap g := by
  induction h with
  | nil => rfl
  | cons hxy _ ih => rw [List.filterMap_cons,List.filterMap_cons,hfg _ _ hxy,ih]

end HostMeter.Text
