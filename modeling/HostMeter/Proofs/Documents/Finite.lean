import HostMeter.Proofs.Documents.Text
import Mathlib.Algebra.GroupWithZero.Nat
set_option autoImplicit false

/-! Numbers in documents that have been read are finite: a whole number that fits in a word is, and so is
every number that a reader makes of digits. -/

namespace HostMeter

namespace Binary64

variable {neg : Bool} {num den m n : Nat}

def Finite (x : Binary64) : Prop := x.isFinite = true

theorem magnitude_ofMagnitude (neg : Bool) (h : m < signWeight) : (ofMagnitude neg m).magnitude = m := by
  have hw : signWeight = 9223372036854775808 := rfl
  rw [hw] at h
  cases neg with
  | false =>
    show (UInt64.ofNat m).toNat % 9223372036854775808 = m
    rw [UInt64.toNat_ofNat']
    omega
  | true =>
    show (UInt64.ofNat (9223372036854775808+m)).toNat % 9223372036854775808 = m
    rw [UInt64.toNat_ofNat']
    omega

theorem finite_iff {x : Binary64} : x.Finite ↔ x.magnitude < infinityMagnitude := decide_eq_true_iff

theorem ofMagnitude_finite (neg : Bool) (h : m < infinityMagnitude) : (ofMagnitude neg m).Finite := by
  have hw : infinityMagnitude < signWeight := by decide
  rw [finite_iff,magnitude_ofMagnitude neg (Nat.lt_trans h hw)]
  exact h

theorem le_unitExponent (num den : Nat) :
    (num.log2 : Int)-den.log2-53 ≤ unitExponent num den := by
  unfold unitExponent
  simp only
  split <;> omega

theorem unitExponent_le (num den : Nat) :
    unitExponent num den ≤ max ((num.log2 : Int)-den.log2-52) (-1074) := by
  unfold unitExponent
  simp only
  split <;> omega

theorem roundAt_le (num : Nat) (hne : den ≠ 0) :
    roundAt num den (unitExponent num den) ≤ 4*hiddenBit := by
  have hle := le_unitExponent num den
  generalize unitExponent num den = e at hle ⊢
  have hnum : num < 2^(num.log2+1) := Nat.lt_log2_self
  have hden : 2^den.log2 ≤ den := Nat.log2_self_le hne
  have hq : scaleUp num (-e)/scaleUp den e < 4*hiddenBit := by
    have h4 : 4*hiddenBit = 2^54 := by decide
    have hpos : 0 < scaleUp den e := Nat.mul_pos (Nat.pos_of_ne_zero hne) (Nat.pow_pos (by decide))
    rw [h4,Nat.div_lt_iff_lt_mul hpos]
    calc scaleUp num (-e) < 2^(num.log2+1)*2^(-e).toNat :=
          Nat.mul_lt_mul_of_pos_right hnum (Nat.pow_pos (by decide))
      _ = 2^(num.log2+1+(-e).toNat) := (Nat.pow_add ..).symm
      _ ≤ 2^(54+den.log2+e.toNat) := Nat.pow_le_pow_right (by decide) (by omega)
      _ = 2^54*(2^den.log2*2^e.toNat) := by rw [Nat.pow_add,Nat.pow_add,Nat.mul_assoc]
      _ ≤ 2^54*scaleUp den e := Nat.mul_le_mul_left _ (Nat.mul_le_mul_right _ hden)
  unfold roundAt
  simp only
  split <;> omega

theorem magnitude_ofRatio_le (neg : Bool) (hden : den ≠ 0) :
    (ofRatio neg num den).magnitude ≤ (num.log2+1026-den.log2+4)*hiddenBit := by
  unfold ofRatio
  split
  · rw [zero,magnitude_ofMagnitude neg (by decide)]
    exact Nat.zero_le _
  · have hr := roundAt_le num hden
    have he := unitExponent_le num den
    have hw : infinityMagnitude < signWeight := by decide
    have hle := Nat.mul_le_mul_right hiddenBit
      (show (unitExponent num den+1074).toNat ≤ num.log2+1026-den.log2 by omega)
    have hmin := Nat.min_le_left
      ((unitExponent num den+1074).toNat*hiddenBit+roundAt num den (unitExponent num den))
      infinityMagnitude
    have hcap := Nat.min_le_right
      ((unitExponent num den+1074).toNat*hiddenBit+roundAt num den (unitExponent num den))
      infinityMagnitude
    simp only
    rw [magnitude_ofMagnitude neg (Nat.lt_of_le_of_lt hcap hw),Nat.add_mul]
    omega

theorem ofRatio_finite (neg : Bool) (hden : den ≠ 0) (h : num.log2 < den.log2+1000) :
    (ofRatio neg num den).Finite := by
  rw [finite_iff]
  calc (ofRatio neg num den).magnitude ≤ (num.log2+1026-den.log2+4)*hiddenBit :=
        magnitude_ofRatio_le neg hden
    _ < infinityMagnitude := Nat.mul_lt_mul_of_pos_right (by omega) (by decide)

theorem log2_le_of_le_limit64 (h : n ≤ limit64) : n.log2 ≤ 64 := by
  have h64 : limit64 < 2^65 := by decide
  by_cases hn : n = 0
  · subst hn
    decide
  · have := (Nat.log2_lt hn).mpr (Nat.lt_of_le_of_lt h h64)
    omega

theorem ofNat_finite (h : n ≤ limit64) : (ofNat n).Finite := by
  apply ofRatio_finite false (by decide)
  have := log2_le_of_le_limit64 h
  omega

theorem ofInt_finite {n : Int} (h : -(limit63 : Int) ≤ n ∧ n < limit64) : (ofInt n).Finite := by
  apply ofRatio_finite _ (by decide)
  have hl : limit63 ≤ limit64 := by decide
  have := log2_le_of_le_limit64 (n := n.natAbs) (by omega)
  omega

theorem neg_finite {x : Binary64} (h : x.Finite) : x.neg.Finite := ofMagnitude_finite _ (finite_iff.mp h)

theorem zero_finite (neg : Bool) : (zero neg).Finite := ofMagnitude_finite neg (by decide)

variable {x y : Binary64}

theorem log2_scaleUp (h : n ≠ 0) (e : Int) : (scaleUp n e).log2 = n.log2+e.toNat := by
  have hle := Nat.log2_self_le h
  have hlt := Nat.lt_log2_self (n := n)
  have hpos : 0 < 2^e.toNat := Nat.pow_pos (by decide)
  show (n*2^e.toNat).log2 = _
  rw [Nat.log2_eq_iff (Nat.mul_ne_zero h hpos.ne')]
  refine ⟨?_,?_⟩
  · rw [Nat.pow_add]
    exact Nat.mul_le_mul_right _ hle
  · rw [Nat.add_right_comm,Nat.pow_add]
    exact Nat.mul_lt_mul_of_pos_right hlt hpos

theorem significand_lt (x : Binary64) : x.significand < 2^53 := by
  have hm : x.magnitude%hiddenBit < hiddenBit := Nat.mod_lt _ (by decide)
  have hh : hiddenBit = 2^52 := by decide
  unfold significand fraction
  split <;> omega

theorem Finite.not_special (h : x.Finite) : x.isNaN = false ∧ x.isInfinite = false := by
  have hm := finite_iff.mp h
  exact ⟨decide_eq_false (by omega),decide_eq_false (by omega)⟩

theorem ne_zero_of_field (h : 1 ≤ x.field) : x.isZero = false ∧ hiddenBit ≤ x.significand := by
  have hm : x.magnitude ≠ 0 := by
    intro h0
    rw [field,h0] at h
    exact absurd h (by decide)
  refine ⟨decide_eq_false hm,?_⟩
  rw [significand,if_neg (by omega)]
  exact Nat.le_add_right ..

theorem div_eq_ofRatio (hx : x.Finite) (hy : y.Finite) (hf : 1 ≤ y.field) :
    x.div y = ofRatio (x.negative != y.negative) (scaleUp x.significand (x.exponent-y.exponent))
      (scaleUp y.significand (-(x.exponent-y.exponent))) := by
  unfold div
  simp [hx.not_special,hy.not_special,(ne_zero_of_field hf).1]

theorem magnitude_div_le (hx : x.Finite) (hy : y.Finite) (hf : 1 ≤ y.field) :
    (x.div y).magnitude ≤ (x.field+1031-y.field+4)*hiddenBit := by
  have hs := (ne_zero_of_field hf).2
  have hy0 : y.significand ≠ 0 := by
    have : 0 < hiddenBit := by decide
    omega
  rw [div_eq_ofRatio hx hy hf]
  generalize he : x.exponent-y.exponent = e
  have hden : scaleUp y.significand (-e) ≠ 0 := Nat.mul_ne_zero hy0 (Nat.pow_pos (by decide)).ne'
  refine Nat.le_trans (magnitude_ofRatio_le _ hden) (Nat.mul_le_mul_right _ ?_)
  have hyl : 52 ≤ y.significand.log2 := (Nat.le_log2 hy0).mpr hs
  have hxl : (scaleUp x.significand e).log2 ≤ 52+e.toNat := by
    by_cases hx0 : x.significand = 0
    · rw [hx0,scaleUp,Nat.zero_mul]
      exact Nat.zero_le _
    · have hl := (Nat.log2_lt hx0).mpr (significand_lt x)
      rw [log2_scaleUp hx0]
      omega
  rw [log2_scaleUp hy0]
  simp only [exponent] at he
  omega

end Binary64

namespace Doc

open Binary64

variable {neg : Bool} {n m fuel : Nat} {e : Int} {f x : Binary64} {cs : List Char}

theorem pow10_large : ∀ k ≤ 308,(pow10 k).Finite ∧ 1023 ≤ (pow10 k).field := by
  unfold Binary64.Finite
  decide +kernel

theorem pow10_308 : (pow10 308).field = 2046 := by decide +kernel

theorem scale_finite (hf : f.magnitude ≤ 1200*hiddenBit) (h : scale f fuel e = some x) : x.Finite := by
  induction fuel generalizing f e with
  | zero =>
    cases h
    exact zero_finite false
  | succ fuel ih =>
    have hfin : f.Finite := finite_iff.mpr (Nat.lt_of_le_of_lt hf (by decide))
    have hfield : f.field ≤ 1200 := Nat.div_le_of_le_mul (by rwa [Nat.mul_comm])
    rw [scale] at h
    split at h
    · rename_i hk
      obtain ⟨hp,h1⟩ := pow10_large e.natAbs hk
      split at h
      · exact (Option.filter_eq_some_iff.mp h).2
      · cases h
        refine finite_iff.mpr (Nat.lt_of_le_of_lt (magnitude_div_le hfin hp (by omega)) ?_)
        exact Nat.mul_lt_mul_of_pos_right (by omega) (by decide)
    · split at h
      · cases h
        exact hfin
      split at h
      · cases h
      · refine ih (Nat.le_trans (magnitude_div_le hfin (pow10_large 308 (by decide)).1 ?_) ?_) h
        · rw [pow10_308]
          decide
        · rw [pow10_308]
          exact Nat.mul_le_mul_right _ (by omega)

theorem scaled_finite (hn : n < limit64) (h : scaled neg n e = some x) : x.Finite := by
  obtain ⟨f,hf,rfl⟩ := Option.map_eq_some_iff.mp h
  have hl := log2_le_of_le_limit64 (Nat.le_of_lt hn)
  have hb : (Binary64.ofNat n).magnitude ≤ 1200*hiddenBit :=
    Nat.le_trans (magnitude_ofRatio_le false (by decide)) (Nat.mul_le_mul_right _ (by omega))
  have hfin := scale_finite hb hf
  cases neg with
  | false => exact hfin
  | true => exact neg_finite hfin

theorem gather_lt (h : n < wordLimit) : (gather n cs).1 < wordLimit := by
  induction cs generalizing n with
  | nil => exact h
  | cons c cs ih =>
    rw [gather]
    split
    · rename_i hc
      exact ih hc
    · exact h

theorem ofScaled_numeric (h : n < limit64) : (number.ofScaled (scaled neg n e)).Numeric Finite := by
  cases hs : scaled neg n e with
  | none => trivial
  | some x => exact scaled_finite h hs

theorem number_numeric (neg : Bool) (whole fraction : List Char) (pointed : Bool)
    (exponent : Option (Bool × List Char)) :
    (number neg whole fraction pointed exponent).Numeric Finite := by
  have hn : (gather 0 whole).1 < limit64 := gather_lt (by decide)
  have hm : (gather (gather 0 whole).1 fraction).1 < limit64 := gather_lt hn
  have hl : limit63 ≤ limit64 := by decide
  unfold number
  simp only
  split
  · split
    · exact ofScaled_numeric hm
    split
    · show -(limit63 : Int) ≤ _ ∧ _ < (limit64 : Int)
      omega
    split
    · show -(limit63 : Int) ≤ _ ∧ _ < (limit64 : Int)
      omega
    · exact neg_finite (ofNat_finite (Nat.le_of_lt hn))
  · split
    · split
      · trivial
      · exact zero_finite neg
    · exact ofScaled_numeric hm

variable {value d : Doc} {ws : List Char} {whole fraction : List Char} {pointed : Bool}

theorem readWord_numeric (h : value.Numeric Finite) : (readWord value ws cs).doc.Numeric Finite := by
  induction ws generalizing cs with
  | nil => exact h
  | cons w ws ih =>
    cases cs with
    | nil => trivial
    | cons c cs =>
      rw [readWord]
      split
      · exact ih
      · trivial

theorem shortNumber_numeric (cs : List Char) : (shortNumber cs).doc.Numeric Finite := by
  cases cs <;> trivial

theorem exponentDigits_numeric (down : Bool) (cs : List Char) :
    (if cs.takeWhile Char.isDigit = [] then shortNumber cs
      else (⟨number neg whole fraction pointed (some (down,cs.takeWhile Char.isDigit)),
        some (cs.dropWhile Char.isDigit)⟩ : Read)).doc.Numeric Finite := by
  split
  · exact shortNumber_numeric cs
  · exact number_numeric neg whole fraction pointed (some (down,cs.takeWhile Char.isDigit))

theorem readExponentPart_numeric :
    (readExponentPart neg whole fraction pointed cs).doc.Numeric Finite := by
  have hn := number_numeric neg whole fraction pointed none
  unfold readExponentPart
  split
  · exact hn
  split
  · split
    exact exponentDigits_numeric _ _
  · exact hn

theorem readNumber_numeric : (readNumber neg cs).doc.Numeric Finite := by
  unfold readNumber
  simp only
  split
  · exact shortNumber_numeric _
  split
  · trivial
  split
  · split
    · exact shortNumber_numeric _
    · exact readExponentPart_numeric
  · exact readExponentPart_numeric

mutual

theorem readValue_numeric (fuel : Nat) (cs : List Char) : (readValue fuel cs).doc.Numeric Finite := by
  match fuel with
  | 0 => trivial
  | fuel+1 =>
    rw [readValue]
    split
    case h_1 => trivial
    case h_2 => exact readWord_numeric trivial
    case h_3 => exact readWord_numeric trivial
    case h_4 => exact readWord_numeric trivial
    case h_5 =>
      simp only
      split
      · split <;> trivial
      · trivial
    case h_6 => exact readNumber_numeric
    case h_7 =>
      split
      · trivial
      · trivial
      · exact readItems_numeric fuel _
    case h_8 =>
      split
      · trivial
      · trivial
      · exact readFields_numeric fuel _
      · exact readValue_numeric fuel _
    case h_9 =>
      split
      · exact readNumber_numeric
      · trivial

theorem readItems_numeric (fuel : Nat) (cs : List Char) :
    NumericItems Finite (readItems fuel cs).1 := by
  match fuel with
  | 0 => trivial
  | fuel+1 =>
    have hd := readValue_numeric fuel cs
    rw [readItems]
    split
    · rename_i hv
      rw [hv] at hd
      exact ⟨hd,trivial⟩
    · rename_i hv
      rw [hv] at hd
      split
      · exact ⟨hd,trivial⟩
      · split
        · exact ⟨hd,trivial,trivial⟩
        · exact ⟨hd,trivial,trivial⟩
        · exact ⟨hd,readItems_numeric fuel _⟩
      · exact ⟨hd,trivial⟩
      · exact ⟨hd,trivial⟩

theorem readFields_numeric (fuel : Nat) (cs : List Char) :
    NumericFields Finite (readFields fuel cs).1 := by
  match fuel with
  | 0 => trivial
  | fuel+1 =>
    rw [readFields]
    simp only
    split
    · exact ⟨trivial,trivial⟩
    split
    · exact ⟨trivial,trivial⟩
    · rename_i rest _
      have hd := readValue_numeric fuel rest
      split
      · rename_i hv
        rw [hv] at hd
        exact ⟨hd,trivial⟩
      · rename_i hv
        rw [hv] at hd
        split
        · exact ⟨hd,trivial⟩
        · split
          · exact ⟨hd,readFields_numeric fuel _⟩
          · exact ⟨hd,trivial,trivial⟩
          · exact ⟨hd,trivial,trivial⟩
        · exact ⟨hd,trivial⟩
        · exact ⟨hd,trivial⟩
    · exact ⟨trivial,trivial⟩

end

/-- Whatever the text, its numbers are finite and the whole ones fit in words. -/
theorem read_numeric (s : String) : (read s).1.Numeric Finite := by
  have hd := readValue_numeric (s.toList.length+1) s.toList
  unfold read
  simp only
  split <;> rename_i hv <;> rw [hv] at hd <;> exact hd

end Doc

end HostMeter
