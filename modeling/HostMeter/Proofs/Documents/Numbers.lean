import HostMeter.Json.Document
import Mathlib.Data.List.DropRight
set_option autoImplicit false

/-! Reading back the numbers that documents hold. Whole numbers that fit in a word come back from their
digits; of the other numbers those do whose text, read by itself, is the same number. -/

namespace HostMeter

namespace Doc

variable {neg : Bool} {n m fuel : Nat} {x : Binary64} {d : Doc} {cs tail rest : List Char} {c : Char}

/-- What may stand behind a value: the end of the text, or what parts or closes a list. -/
def Closes (tail : List Char) : Prop := ∀ c ∈ tail.head?,c = ',' ∨ c = ']' ∨ c = '}'

theorem closes_nil : Closes [] := by
  simp [Closes]

theorem closes_cons (h : c = ',' ∨ c = ']' ∨ c = '}') : Closes (c :: tail) := by
  intro c' hc
  cases hc
  exact h

section

variable {p : Char → Bool}

theorem takeWhile_append_of_stop (h : ∀ c ∈ tail.head?,p c = false) :
    (cs++tail).takeWhile p = cs.takeWhile p := by
  induction cs with
  | nil =>
    cases tail with
    | nil => rfl
    | cons c tail => simp [h c rfl]
  | cons c cs ih =>
    rw [List.cons_append,List.takeWhile_cons,List.takeWhile_cons,ih]

theorem dropWhile_append_of_stop (h : ∀ c ∈ tail.head?,p c = false) :
    (cs++tail).dropWhile p = cs.dropWhile p++tail := by
  induction cs with
  | nil =>
    cases tail with
    | nil => rfl
    | cons c tail => simp [h c rfl]
  | cons c cs ih =>
    rw [List.cons_append,List.dropWhile_cons,List.dropWhile_cons,ih]
    split <;> rfl

end

theorem Closes.not_digit (h : Closes tail) : ∀ c ∈ tail.head?,c.isDigit = false := by
  intro c hc
  rcases h c hc with rfl | rfl | rfl <;> decide

theorem skipSpace_cons (h : isSpace c = false) : skipSpace (c :: rest) = c :: rest := by
  rw [skipSpace,List.dropWhile_cons,h]
  rfl

theorem le_ofDigitChars (n : Nat) (cs : List Char) : n ≤ Nat.ofDigitChars 10 cs n := by
  induction cs generalizing n with
  | nil => exact Nat.le_refl n
  | cons c cs ih =>
    have h := ih (10*n+(c.toNat - '0'.toNat))
    have hc : Nat.ofDigitChars 10 (c :: cs) n =
        Nat.ofDigitChars 10 cs (10*n+(c.toNat - '0'.toNat)) := rfl
    omega

theorem gather_ofDigitChars (h : Nat.ofDigitChars 10 cs n < wordLimit) :
    gather n cs = (Nat.ofDigitChars 10 cs n,[]) := by
  induction cs generalizing n with
  | nil => rfl
  | cons c cs ih =>
    have hc : Nat.ofDigitChars 10 (c :: cs) n =
        Nat.ofDigitChars 10 cs (10*n+gather.digitVal c) := rfl
    rw [hc] at h ⊢
    have hle := le_ofDigitChars (10*n+gather.digitVal c) cs
    rw [gather,if_pos (by omega),ih h]

theorem gather_toDigits (h : m < wordLimit) : gather 0 (Nat.toDigits 10 m) = (m,[]) := by
  have hm : Nat.ofDigitChars 10 (Nat.toDigits 10 m) 0 = m :=
    Nat.ofDigitChars_toDigits (by decide) (by decide)
  rw [gather_ofDigitChars (by rwa [hm]),hm]

theorem head?_toDigits_ne (h : 0 < m) : (Nat.toDigits 10 m).head? ≠ some '0' := by
  induction m using Nat.strongRecOn with
  | _ m ih =>
    by_cases hm : m < 10
    · rw [Nat.toDigits_of_lt_base hm]
      intro hc
      have hc : m.digitChar = '0' := Option.some.inj hc
      have ht := Nat.toNat_digitChar_of_lt_ten hm
      rw [hc] at ht
      simp at ht
      omega
    · have hd := Nat.toDigits_append_toDigits (b := 10) (n := m/10) (d := m%10) (by decide) (by omega)
        (by omega)
      rw [Nat.div_add_mod] at hd
      have hi := ih (m/10) (by omega) (by omega)
      rw [← hd]
      cases ht : Nat.toDigits 10 (m/10) with
      | nil => exact absurd ht Nat.toDigits_ne_nil
      | cons c cs =>
        rw [ht] at hi
        exact hi

theorem toDigits_unpadded (m : Nat) :
    ¬((Nat.toDigits 10 m).head? = some '0' ∧ 1 < (Nat.toDigits 10 m).length) := by
  rintro ⟨hh,hl⟩
  by_cases hm : 0 < m
  · exact head?_toDigits_ne hm hh
  · have h0 : m = 0 := by omega
    subst h0
    simp [Nat.toDigits_of_lt_base] at hl

theorem takeWhile_toDigits (m : Nat) : (Nat.toDigits 10 m).takeWhile Char.isDigit = Nat.toDigits 10 m :=
  List.takeWhile_eq_self_iff.mpr fun _ hc =>
    Nat.isDigit_of_mem_toDigits (by decide) (by decide) hc

theorem dropWhile_toDigits (m : Nat) : (Nat.toDigits 10 m).dropWhile Char.isDigit = [] :=
  List.dropWhile_eq_nil_iff.mpr fun _ hc =>
    Nat.isDigit_of_mem_toDigits (by decide) (by decide) hc

theorem readExponentPart_closes {whole fraction : List Char} {pointed : Bool} (h : Closes tail) :
    readExponentPart neg whole fraction pointed tail =
      ⟨number neg whole fraction pointed none,some tail⟩ := by
  cases tail with
  | nil => rfl
  | cons c tail =>
    have hc : ¬(c = 'e' ∨ c = 'E') := by
      rcases h c rfl with rfl | rfl | rfl <;> decide
    simp only [readExponentPart,if_neg hc]

theorem readNumber_toDigits (neg : Bool) (m : Nat) (h : Closes tail) :
    readNumber neg (Nat.toDigits 10 m++tail) =
      ⟨number neg (Nat.toDigits 10 m) [] false none,some tail⟩ := by
  have ht : (Nat.toDigits 10 m++tail).takeWhile Char.isDigit = Nat.toDigits 10 m := by
    rw [takeWhile_append_of_stop h.not_digit,takeWhile_toDigits]
  have hd : (Nat.toDigits 10 m++tail).dropWhile Char.isDigit = tail := by
    rw [dropWhile_append_of_stop h.not_digit,dropWhile_toDigits,List.nil_append]
  unfold readNumber
  simp only [ht,hd,if_neg Nat.toDigits_ne_nil,if_neg (toDigits_unpadded m)]
  cases tail with
  | nil => rfl
  | cons c tail =>
    split
    · rename_i hc
      cases hc
      rcases h '.' rfl with hc | hc | hc <;> cases hc
    · exact readExponentPart_closes h

theorem number_toDigits (h : m < limit64) : number false (Nat.toDigits 10 m) [] false none = .int m := by
  have hg : gather 0 (Nat.toDigits 10 m) = (m,[]) := gather_toDigits h
  simp [number,hg]

theorem number_toDigits_neg (hpos : 0 < m) (h : m ≤ limit63) :
    number true (Nat.toDigits 10 m) [] false none = .int (-(m : Int)) := by
  have hm : m < wordLimit := by
    have : limit63 < wordLimit := by decide
    omega
  have hg : gather 0 (Nat.toDigits 10 m) = (m,[]) := gather_toDigits hm
  simp [number,hg,hpos,h]

theorem shortNumber_rest (cs : List Char) : (shortNumber cs).rest = none := by
  cases cs <;> rfl

theorem exponentDigits_append {down : Bool} (build : Bool → List Char → Doc)
    (h : (if cs.takeWhile Char.isDigit = [] then shortNumber cs
      else ⟨build down (cs.takeWhile Char.isDigit),some (cs.dropWhile Char.isDigit)⟩) = ⟨d,some []⟩)
    (ht : Closes tail) :
    (if (cs++tail).takeWhile Char.isDigit = [] then shortNumber (cs++tail)
      else ⟨build down ((cs++tail).takeWhile Char.isDigit),
        some ((cs++tail).dropWhile Char.isDigit)⟩) = (⟨d,some tail⟩ : Read) := by
  rw [takeWhile_append_of_stop ht.not_digit,dropWhile_append_of_stop ht.not_digit]
  split at h
  · have hs := shortNumber_rest cs
    rw [h] at hs
    cases hs
  · rename_i hne
    rw [if_neg hne]
    injection h with hd hr
    rw [hd,Option.some.inj hr,List.nil_append]

theorem readExponentPart_append {whole fraction : List Char} {pointed : Bool}
    (h : readExponentPart neg whole fraction pointed cs = ⟨d,some []⟩) (ht : Closes tail) :
    readExponentPart neg whole fraction pointed (cs++tail) = ⟨d,some tail⟩ := by
  cases cs with
  | nil =>
    rw [readExponentPart_closes closes_nil] at h
    rw [List.nil_append,readExponentPart_closes ht]
    cases h
    rfl
  | cons c cs =>
    by_cases hc : c = 'e' ∨ c = 'E'
    · simp only [readExponentPart,List.cons_append,if_pos hc] at h ⊢
      cases cs with
      | nil => cases h
      | cons c cs =>
        by_cases hm : c = '-'
        · subst hm
          exact exponentDigits_append
            (fun down ds => number neg whole fraction pointed (some (down,ds))) h ht
        · by_cases hp : c = '+'
          · subst hp
            exact exponentDigits_append
              (fun down ds => number neg whole fraction pointed (some (down,ds))) h ht
          · split at h
            · rename_i hc'
              cases hc'
              exact absurd rfl hm
            · rename_i hc'
              cases hc'
              exact absurd rfl hp
            · split
              · rename_i hc'
                cases hc'
                exact absurd rfl hm
              · rename_i hc'
                cases hc'
                exact absurd rfl hp
              · exact exponentDigits_append
                  (fun down ds => number neg whole fraction pointed (some (down,ds))) h ht
    · simp only [readExponentPart,if_neg hc] at h
      cases h

/-- A number that takes up its text whole is the same with something behind it. -/
theorem readNumber_append (h : readNumber neg cs = ⟨d,some []⟩) (ht : Closes tail) :
    readNumber neg (cs++tail) = ⟨d,some tail⟩ := by
  have hw : (cs++tail).takeWhile Char.isDigit = cs.takeWhile Char.isDigit :=
    takeWhile_append_of_stop ht.not_digit
  have hd : (cs++tail).dropWhile Char.isDigit = cs.dropWhile Char.isDigit++tail :=
    dropWhile_append_of_stop ht.not_digit
  unfold readNumber at h ⊢
  simp only [hw,hd] at h ⊢
  split at h
  · have hs := shortNumber_rest cs
    rw [h] at hs
    cases hs
  · rename_i hne
    rw [if_neg hne]
    split at h
    · cases h
    · rename_i hz
      rw [if_neg hz]
      generalize cs.dropWhile Char.isDigit = after at h ⊢
      split at h
      · rename_i after
        split at h
        · have hs := shortNumber_rest after
          rw [h] at hs
          cases hs
        · rename_i hf
          simp only [List.cons_append,takeWhile_append_of_stop ht.not_digit,
            dropWhile_append_of_stop ht.not_digit,if_neg hf]
          exact readExponentPart_append h ht
      · rename_i hdot
        split
        · -- A point can only come from the number itself.
          rename_i after' hcons
          cases after with
          | nil =>
            rw [List.nil_append] at hcons
            subst hcons
            rcases ht '.' rfl with hc | hc | hc <;> cases hc
          | cons c after =>
            cases hcons
            exact absurd rfl (hdot after)
        · exact readExponentPart_append h ht

theorem isSpace_of_isDigit (h : c.isDigit = true) : isSpace c = false := by
  rw [← Bool.not_eq_true]
  intro hs
  simp only [isSpace,Bool.or_eq_true,decide_eq_true_eq] at hs
  rcases hs with ((rfl | rfl) | rfl) | rfl <;> revert h <;> decide

theorem readValue_minus (fuel : Nat) (cs : List Char) :
    readValue (fuel+1) ('-' :: cs) = readNumber true cs := by
  rw [readValue,skipSpace_cons (by decide)]
  rfl

theorem readValue_digit (h : c.isDigit = true) (fuel : Nat) (cs : List Char) :
    readValue (fuel+1) (c :: cs) = readNumber false (c :: cs) := by
  rw [readValue,skipSpace_cons (isSpace_of_isDigit h)]
  split
  case h_1 hc => cases hc
  case h_9 =>
    rename_i hc
    cases hc
    rw [if_pos h]
  -- Every other letter that opens a value is no digit.
  all_goals
    rename_i hc
    cases hc
    exact absurd h (by decide)

theorem readValue_skipSpace (fuel : Nat) (cs : List Char) :
    readValue fuel (skipSpace cs) = readValue fuel cs := by
  cases fuel with
  | zero => rfl
  | succ fuel =>
    have hs : skipSpace (skipSpace cs) = skipSpace cs := List.dropWhile_idempotent isSpace cs
    rw [readValue,readValue,hs]

theorem readWord_ne_float {value : Doc} {ws : List Char} (hv : ∀ x,value ≠ .float x) :
    (readWord value ws cs).doc ≠ .float x := by
  induction ws generalizing cs with
  | nil => exact hv x
  | cons w ws ih =>
    cases cs with
    | nil => simp [readWord]
    | cons c cs =>
      rw [readWord]
      split
      · exact ih
      · simp [Read.stop,broken]

theorem readValue_eq_float (h : readValue (fuel+1) cs = ⟨.float x,some rest⟩) :
    (∃ ds,skipSpace cs = '-' :: ds ∧ readNumber true ds = ⟨.float x,some rest⟩) ∨
      ∃ c ds,c.isDigit = true ∧ skipSpace cs = c :: ds ∧
        readNumber false (c :: ds) = ⟨.float x,some rest⟩ := by
  have hword : ∀ value ws ds,(∀ x,value ≠ .float x) →
      readWord value ws ds ≠ ⟨.float x,some rest⟩ :=
    fun value ws ds hv hr => readWord_ne_float hv (congrArg Read.doc hr)
  rw [readValue] at h
  split at h
  case h_1 => cases h
  case h_2 => exact absurd h (hword _ _ _ (by simp))
  case h_3 => exact absurd h (hword _ _ _ (by simp))
  case h_4 => exact absurd h (hword _ _ _ (by simp))
  case h_5 =>
    simp only at h
    split at h
    · split at h <;> cases h
    · cases h
  case h_6 hs => exact .inl ⟨_,hs,h⟩
  case h_7 => split at h <;> cases h
  case h_8 => split at h <;> cases h
  case h_9 hs =>
    split at h
    · rename_i hd
      exact .inr ⟨_,_,hd,hs,h⟩
    · cases h

end Doc

/-- The number that a document is, if it is one that need not be whole. -/
def Doc.float? : Doc → Option Binary64
  | .float x => some x
  | _ => none

/-- Written into a document, the number is read as itself. -/
def Binary64.Survives (x : Binary64) : Prop :=
  x.isFinite = true ∧ Doc.readValue 1 x.documentText.toList = ⟨.float x,some []⟩

theorem Doc.read_eq_float {r : Read} {x : Binary64} {rest : List Char} :
    r.doc.float? = some x ∧ r.rest = some rest ↔ r = ⟨.float x,some rest⟩ := by
  obtain ⟨d,after⟩ := r
  constructor
  · rintro ⟨hd,rfl⟩
    cases d <;> simp_all [Doc.float?]
  · intro h
    cases h
    exact ⟨rfl,rfl⟩

instance (x : Binary64) : Decidable x.Survives :=
  decidable_of_iff (x.isFinite = true ∧
      (Doc.readValue 1 x.documentText.toList).doc.float? = some x ∧
        (Doc.readValue 1 x.documentText.toList).rest = some [])
    (and_congr_right fun _ => Doc.read_eq_float)

example : (Binary64.ofDecimal false 15 (-1)).Survives := by decide +kernel

namespace Doc

variable {x : Binary64} {cs tail : List Char}

theorem skipSpace_append {c : Char} {rest : List Char} (h : skipSpace cs = c :: rest) :
    skipSpace (cs++tail) = c :: (rest++tail) := by
  unfold skipSpace at h ⊢
  rw [List.dropWhile_append,h]
  rfl

theorem readValue_float (h : readValue 1 cs = ⟨.float x,some []⟩) (ht : Closes tail) (fuel : Nat) :
    readValue (fuel+1) (cs++tail) = ⟨.float x,some tail⟩ := by
  rcases readValue_eq_float h with ⟨ds,hs,hn⟩ | ⟨c,ds,hc,hs,hn⟩
  · rw [← readValue_skipSpace,skipSpace_append hs,readValue_minus]
    exact readNumber_append hn ht
  · rw [← readValue_skipSpace,skipSpace_append hs,readValue_digit hc]
    exact readNumber_append hn ht

end Doc

end HostMeter
