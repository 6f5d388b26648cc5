import HostMeter.Cgroup.Files
import Mathlib.Algebra.BigOperators.Group.List.Basic
import Mathlib.Algebra.GroupWithZero.Nat
set_option autoImplicit false

/-! Numbers in the files of a cgroup: the digits they are written with, and their sums, which wrap when they
do not fit in a word. -/

namespace HostMeter

variable {c : Char} {cs : List Char}

def digits (n : UInt64) : List Char := Nat.toDigits 10 n.toNat

theorem isDigit_of_mem_digits {n : UInt64} (h : c ∈ digits n) : c.isDigit = true :=
  Nat.isDigit_of_mem_toDigits (by decide) (by decide) h

theorem readDigits_toDigits (n : Nat) : readDigits (Nat.toDigits 10 n) = some n := by
  have hall : (Nat.toDigits 10 n).all Char.isDigit = true :=
    List.all_eq_true.mpr fun _ hc => Nat.isDigit_of_mem_toDigits (by decide) (by decide) hc
  have hval : natOfDigits (Nat.toDigits 10 n) = n :=
    Nat.ofDigitChars_eq_foldl.symm.trans Nat.ofDigitChars_ten_toDigits
  rw [readDigits,if_pos ⟨Nat.toDigits_ne_nil,hall⟩,hval]

theorem readWord64_digits (n : UInt64) : readWord64 (digits n) = some n := by
  have hplus : ∀ rest,digits n ≠ '+' :: rest := by
    intro rest h
    have hd : ('+').isDigit = true := isDigit_of_mem_digits (h ▸ List.mem_cons_self)
    cases hd
  have hlt : n.toNat < limit64 := n.toNat_lt
  unfold readWord64 readUnsigned
  split
  · rename_i rest h
    exact absurd h (hplus rest)
  · rw [digits,readDigits_toDigits]
    simp [Option.filter_some,hlt]

theorem readDigits_eq_none (hm : c ∈ cs) (hc : c.isDigit = false) : readDigits cs = none := by
  refine if_neg fun h => ?_
  rw [List.all_eq_true.mp h.2 c hm] at hc
  cases hc

theorem readWord64_eq_none (hm : c ∈ cs) (hc : c.isDigit = false) (hplus : c ≠ '+') :
    readWord64 cs = none := by
  unfold readWord64 readUnsigned
  split
  · rename_i rest
    have hrest : c ∈ rest := (List.mem_cons.mp hm).resolve_left hplus
    rw [readDigits_eq_none hrest hc]
    rfl
  · rw [readDigits_eq_none hm hc]
    rfl

namespace Cgroup

theorem sumWords_eq (ns : List UInt64) : sumWords ns = UInt64.ofNat (ns.map UInt64.toNat).sum := by
  have hfrom : ∀ m : UInt64,ns.foldl (· + ·) m = m+UInt64.ofNat (ns.map UInt64.toNat).sum := by
    induction ns with
    | nil => intro m; simp
    | cons n ns ih =>
      intro m
      rw [List.foldl_cons,ih,List.map_cons,List.sum_cons,UInt64.ofNat_add,UInt64.ofNat_toNat,
        UInt64.add_assoc]
  rw [sumWords,hfrom,UInt64.zero_add]

theorem toNat_sumWords {α : Type} {f : α → UInt64} {xs : List α}
    (h : (xs.map fun x => (f x).toNat).sum < limit64) :
    (sumWords (xs.map f)).toNat = (xs.map fun x => (f x).toNat).sum := by
  rw [sumWords_eq,List.map_map]
  exact UInt64.toNat_ofNat_of_lt' h

theorem sumWords_perm {ns ms : List UInt64} (h : ns.Perm ms) : sumWords ns = sumWords ms := by
  rw [sumWords_eq,sumWords_eq,(h.map UInt64.toNat).sum_eq]

end Cgroup

end HostMeter
