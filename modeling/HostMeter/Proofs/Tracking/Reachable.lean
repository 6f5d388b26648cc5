import HostMeter.Agent
import HostMeter.Cgroup.Host
import HostMeter.Proofs.Table
set_option autoImplicit false

/-! Which policies can match anything. A runtime declares the label keys that it sets, or none when it
passes labels on; a policy reaches its containers if and only if one of those with declared labels is
trackable. The runtime of the cgroup files keeps to what it declares. -/

namespace HostMeter

/-- Its labels have no other keys than the declared ones; the environment is free. -/
def Container.Declared : Option (List String) → Container → Prop
  | some keys,c => ∀ k ∈ c.labels.keys,k ∈ keys
  | none,_ => True

instance (declared : Option (List String)) (c : Container) : Decidable (c.Declared declared) :=
  match declared with
  | some keys => inferInstanceAs (Decidable (∀ k ∈ c.labels.keys,k ∈ keys))
  | none => .isTrue trivial

namespace Policy

variable {p : Policy} {declared : Option (List String)} {c : Container}

def byVariable (p : Policy) : Container := { name := "", env := Table.empty.insert p.envKey "" }

def byLabel (p : Policy) : Container := { name := "", labels := Table.empty.insert p.label "" }

theorem isTrackable_byVariable (h : p.envKey ≠ "") : p.isTrackable p.byVariable = true := by
  have hk : p.envKey ∈ p.byVariable.env.keys := by simp [byVariable,Table.mem_keys_iff]
  have he : p.envMatches p.byVariable = true := by
    simp only [envMatches,h,ne_eq,not_false_eq_true,decide_true,Bool.true_and,List.any_eq_true]
    exact ⟨p.envKey,hk,beq_self_eq_true _⟩
  rw [isTrackable,he,Bool.or_true]

theorem isTrackable_byLabel (h : p.label ≠ "") : p.isTrackable p.byLabel = true := by
  have hl : p.labelMatches p.byLabel = true := by simp [labelMatches,byLabel,h]
  rw [isTrackable,hl,Bool.true_or]

theorem declared_byVariable (p : Policy) (declared : Option (List String)) :
    p.byVariable.Declared declared := by
  cases declared with
  | none => trivial
  | some keys =>
    intro k hk
    cases hk

theorem declared_byLabel_iff :
    p.byLabel.Declared declared ↔ ∀ keys,declared = some keys → p.label ∈ keys := by
  cases declared with
  | none => simp [Container.Declared]
  | some keys => simp [Container.Declared,byLabel,Table.mem_keys_iff]

theorem reachable_of_trackable (hc : c.Declared declared) (ht : p.isTrackable c = true) :
    p.reachable declared = true := by
  by_cases he : p.envKey = ""
  · have hl : p.label ≠ "" ∧ c.labels.contains p.label = true := by
      simpa [isTrackable,envMatches,he,labelMatches] using ht
    cases declared with
    | none => simp [reachable,hl.1]
    | some keys =>
      have hk : p.label ∈ keys := hc p.label (Table.mem_keys_iff.mpr hl.2)
      simp [reachable,hk]
  · simp [reachable,he]

theorem exists_of_reachable (hd : ∀ keys,declared = some keys → "" ∉ keys)
    (h : p.reachable declared = true) : ∃ c : Container,c.Declared declared ∧ p.isTrackable c = true := by
  by_cases he : p.envKey = ""
  · have hl : p.label ≠ "" ∧ ∀ keys,declared = some keys → p.label ∈ keys := by
      cases declared with
      | none => simpa [reachable,he] using h
      | some keys =>
        have hk : p.label ∈ keys := by simpa [reachable,he] using h
        exact ⟨fun hn => hd keys rfl (hn ▸ hk),fun _ hs => Option.some.inj hs ▸ hk⟩
    exact ⟨p.byLabel,declared_byLabel_iff.mpr hl.2,isTrackable_byLabel hl.1⟩
  · exact ⟨p.byVariable,declared_byVariable p declared,isTrackable_byVariable he⟩

/-- An empty key, if one were declared, would count as reached by a policy that matches nothing. -/
example : (⟨"",""⟩ : Policy).reachable (some [""]) = true := by decide

theorem untrackable_of_unreachable (h : p.reachable declared = false) (hc : c.Declared declared) :
    p.isTrackable c = false := by
  by_contra ht
  rw [reachable_of_trackable hc (by simpa using ht)] at h
  cases h

end Policy

/-- A runtime that lists and describes such containers only, whatever state it is in. -/
structure Describing (δ : Type) [ContainerRuntime δ] (D : Container → Prop) : Prop where
  listed {s s' : δ} {cs : List Container} (h : ContainerRuntime.list s = (.done cs,s')) : ∀ c ∈ cs,D c
  described {n : String} {s s' : δ} {c : Container}
    (h : ContainerRuntime.describe n s = (.done c,s')) : D c

namespace Cgroup

theorem keys_insert {t : Table String} {key : String} (ht : ∀ k ∈ t.keys,k ∈ labelKeys)
    (hkey : key ∈ labelKeys) (value : String) : ∀ k ∈ (t.insert key value).keys,k ∈ labelKeys := by
  intro k hk
  rw [Table.mem_keys_iff,Table.contains_insert,Bool.or_eq_true,decide_eq_true_eq] at hk
  rcases hk with rfl | hk
  · exact hkey
  · exact ht k (Table.mem_keys_iff.mpr hk)

theorem keys_pathLabels (root cgroup : Path) : ∀ k ∈ (pathLabels root cgroup).keys,k ∈ labelKeys := by
  have hempty : ∀ k ∈ (Table.empty : Table String).keys,k ∈ labelKeys := List.forall_mem_nil _
  have hpath : pathLabel ∈ labelKeys := by simp [labelKeys]
  have hparent : parentLabel ∈ labelKeys := by simp [labelKeys]
  unfold pathLabels
  cases below? root cgroup <;> cases cgroup.dropLast.getLast?
  · exact hempty
  · exact keys_insert hempty hparent _
  · exact keys_insert hempty hpath _
  · exact keys_insert (keys_insert hempty hpath _) hparent _

theorem describe_declared (t : FileTree) (root proc : Path) (machine : Option Machine) (f : Found) :
    (describe t root proc machine f).Declared (some labelKeys) := keys_pathLabels root f.path

namespace Hierarchy

variable {t : FileTree} {h h' : Hierarchy}

theorem list_declared {cs : List Container} (hl : h.list t = (.ok cs,h')) :
    ∀ c ∈ cs,c.Declared (some labelKeys) := by
  rcases hs : h.scan t with ⟨found | found,h''⟩
  · simp [list,hs] at hl
  · simp only [list,hs,Prod.mk.injEq,Except.ok.injEq] at hl
    obtain ⟨rfl,-⟩ := hl
    exact List.forall_mem_map.mpr fun f _ => describe_declared t h''.root h''.proc h''.machine f

theorem get_declared {n : String} {p : Path} {c : Container} (hg : h.get t n = (.ok (p,c),h')) :
    c.Declared (some labelKeys) := by
  rcases hf : h.find t n with ⟨q | q,h''⟩
  · simp [get,hf] at hg
  · simp only [get,hf,Prod.mk.injEq,Except.ok.injEq] at hg
    obtain ⟨⟨-,rfl⟩,-⟩ := hg
    exact describe_declared t h''.root h''.proc h''.machine ⟨n,q⟩

end Hierarchy

theorem Host.describing : Describing Host (Container.Declared (some labelKeys)) where
  listed {s s' cs} h := by
    rcases hl : s.hierarchy.list s.files with ⟨a,hierarchy⟩
    cases a with
    | error e => simp [ContainerRuntime.list,ask,hl] at h
    | ok found =>
      simp only [ContainerRuntime.list,ask,hl,Prod.mk.injEq,Outcome.done.injEq] at h
      exact h.1 ▸ Hierarchy.list_declared hl
  described {n s s' c} h := by
    rcases hg : s.hierarchy.get s.files n with ⟨a,hierarchy⟩
    cases a with
    | error e => simp [ContainerRuntime.describe,ask,hg] at h
    | ok found =>
      simp only [ContainerRuntime.describe,ask,hg,Prod.mk.injEq,Outcome.done.injEq] at h
      exact h.1 ▸ Hierarchy.get_declared hg

end Cgroup

end HostMeter
