import HostMeter.Message
import HostMeter.Tracking
set_option autoImplicit false

/-! What the operations of the registry answer and leave behind, and what a message makes of it. -/

namespace HostMeter

def Message.name? : Message → Option String
  | .discovery c => some c.name
  | .change c => some c.containerName
  | _ => none

namespace Registry

variable {r : Registry} {c : Container} {n : String}

theorem isRegistered_eq (r : Registry) (n : String) : r.isRegistered n = (r.get? n).isSome := rfl

theorem get?_of_isRegistered (h : r.isRegistered n = true) : ∃ info,r.get? n = some info :=
  Option.isSome_iff_exists.mp h

theorem get?_of_not_isRegistered (h : r.isRegistered n = false) : r.get? n = none := by
  rw [isRegistered_eq] at h
  simpa using h

theorem register_untrackable (h : r.isTrackable c = false) : r.register c = (.notTrackable,r) := by
  simp [register,h]

theorem register_present (ht : r.isTrackable c = true) (h : r.isRegistered c.name = true) :
    r.register c = (.present,r) := by
  simp [register,ht,h]

theorem register_added (ht : r.isTrackable c = true) (h : r.isRegistered c.name = false) :
    r.register c = (.added,{ r with containers := r.containers.insert c.name c }) := by
  simp [register,ht,h]

theorem register_eq_added_iff :
    (r.register c).1 = .added ↔ r.isTrackable c = true ∧ r.isRegistered c.name = false := by
  cases ht : r.isTrackable c with
  | false => simp [register_untrackable ht]
  | true =>
    cases h : r.isRegistered c.name with
    | true => simp [register_present ht h]
    | false => simp [register_added ht h]

theorem register_snd_of_ne (h : (r.register c).1 ≠ .added) : (r.register c).2 = r := by
  cases ht : r.isTrackable c with
  | false => rw [register_untrackable ht]
  | true =>
    cases hp : r.isRegistered c.name with
    | true => rw [register_present ht hp]
    | false => exact absurd (register_eq_added_iff.mpr ⟨ht,hp⟩) h

theorem get?_register (r : Registry) (c : Container) (n : String) :
    (r.register c).2.get? n =
      if (r.register c).1 = .added ∧ n = c.name then some c else r.get? n := by
  by_cases h : (r.register c).1 = .added
  · obtain ⟨ht,hp⟩ := register_eq_added_iff.mp h
    rw [register_added ht hp]
    simp [get?]
  · rw [register_snd_of_ne h,if_neg (fun hn => h hn.1)]

theorem isRegistered_register (r : Registry) (c : Container) (n : String) :
    (r.register c).2.isRegistered n =
      (decide ((r.register c).1 = .added ∧ n = c.name) || r.isRegistered n) := by
  rw [isRegistered_eq,get?_register,isRegistered_eq]
  split <;> rename_i h <;> simp [h]

theorem isRegistered_register_eq (r : Registry) (c : Container) (n : String) :
    (r.register c).2.isRegistered n =
      (decide (n = c.name) && r.isTrackable c || r.isRegistered n) := by
  rw [isRegistered_register]
  by_cases hn : n = c.name
  · subst hn
    cases hr : r.isRegistered c.name <;> simp [register_eq_added_iff,hr]
  · simp [hn]

theorem isRegistered_drop (r : Registry) (name n : String) :
    (r.drop name).2.isRegistered n = (decide (n ≠ name) && r.isRegistered n) := by
  rw [isRegistered_eq,get?_drop,isRegistered_eq]
  split <;> rename_i h <;> simp [h]

theorem drop_of_not_isRegistered (h : r.isRegistered n = false) : (r.drop n).2 = r := by
  have hc : r.containers.erase n = r.containers := by
    apply Table.ext
    intro k
    rw [Table.get?_erase]
    split
    · rename_i hk
      rw [hk]
      exact (get?_of_not_isRegistered h).symm
    · rfl
  simp [drop,hc]

def Keyed (r : Registry) : Prop := ∀ n c,r.get? n = some c → c.name = n

theorem keyed_of_empty (h : r.containers = .empty) : r.Keyed := by
  intro n c hc
  simp [get?,h] at hc

theorem Keyed.register (h : r.Keyed) (c : Container) : (r.register c).2.Keyed := by
  intro n info hn
  rw [get?_register] at hn
  split at hn
  · rename_i ha
    cases hn
    exact ha.2.symm
  · exact h n info hn

theorem Keyed.drop (h : r.Keyed) (name : String) : (r.drop name).2.Keyed := by
  intro n info hn
  rw [get?_drop] at hn
  split at hn
  · cases hn
  · exact h n info hn

/-- What a message makes of the registry: a discovery registers, a stop drops. -/
def heed (r : Registry) : Message → Registry
  | .discovery c => (r.register c).2
  | .change c => if c.state = .stopped then (r.drop c.containerName).2 else r
  | _ => r

theorem Keyed.heed (h : r.Keyed) (m : Message) : (r.heed m).Keyed := by
  cases m with
  | discovery c => exact h.register c
  | change c =>
    by_cases hs : c.state = .stopped
    · simpa [Registry.heed,hs] using h.drop c.containerName
    · simpa [Registry.heed,hs] using h
  | sample _ => exact h
  | report _ => exact h
  | devnull => exact h

theorem isRegistered_heed_other {m : Message} (h : m.name? ≠ some n) :
    (r.heed m).isRegistered n = r.isRegistered n := by
  cases m with
  | discovery c =>
    have hc : n ≠ c.name := fun hn => h (congrArg some hn.symm)
    simp [heed,isRegistered_register,hc]
  | change c =>
    have hc : n ≠ c.containerName := fun hn => h (congrArg some hn.symm)
    by_cases hs : c.state = .stopped
    · simp [heed,hs,isRegistered_drop,hc]
    · simp [heed,hs]
  | sample _ => rfl
  | report _ => rfl
  | devnull => rfl

theorem policy_heed (r : Registry) (m : Message) : (r.heed m).policy = r.policy := by
  cases m with
  | discovery c => exact register_policy r c
  | change c =>
    by_cases hs : c.state = .stopped
    · simp [heed,hs,drop]
    · simp [heed,hs]
  | sample _ => rfl
  | report _ => rfl
  | devnull => rfl

/-- What a message makes of a name depends on the policy and on that name alone. -/
theorem isRegistered_heed_congr {q : Registry} (hp : q.policy = r.policy)
    (hn : q.isRegistered n = r.isRegistered n) (m : Message) :
    (q.heed m).isRegistered n = (r.heed m).isRegistered n := by
  cases m with
  | discovery c =>
    have ht : q.isTrackable c = r.isTrackable c := congrArg (fun p => p.isTrackable c) hp
    simp only [heed,isRegistered_register_eq,ht,hn]
  | change c =>
    by_cases hs : c.state = .stopped
    · simp only [heed,hs,if_true,isRegistered_drop,hn]
    · simp only [heed,hs,if_false,hn]
  | sample _ => exact hn
  | report _ => exact hn
  | devnull => exact hn

end Registry

end HostMeter
