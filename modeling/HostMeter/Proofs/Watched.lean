import HostMeter.Proofs.Chain.Course
set_option autoImplicit false

/-! A meter under watch. Its runtime keeps a tally of the calls it has not answered, its backend keeps
every report it has been handed, whatever it answered. Neither makes a difference to what is sent. -/

namespace HostMeter

variable {δ ρ α : Type}

structure Tallied (δ : Type) where
  inner : δ
  unanswered : Nat := 0

structure Tapped (ρ : Type) where
  inner : ρ
  handed : List Report := []

/-- A meter under watch. -/
abbrev Watched (δ ρ : Type) := Meter (Tallied δ) (Tapped ρ)

namespace Tallied

def call (f : δ → Outcome RuntimeError α × δ) (t : Tallied δ) : Outcome RuntimeError α × Tallied δ :=
  match f t.inner with
  | (.done a,inner) => (.done a,{ t with inner })
  | (.failed e,inner) => (.failed e,⟨inner,t.unanswered+1⟩)
  | (.crashed,inner) => (.crashed,⟨inner,t.unanswered+1⟩)

theorem call_fst (f : δ → Outcome RuntimeError α × δ) (t : Tallied δ) :
    (t.call f).1 = (f t.inner).1 := by
  unfold call
  split <;> rename_i h <;> rw [h]

theorem call_inner (f : δ → Outcome RuntimeError α × δ) (t : Tallied δ) :
    (t.call f).2.inner = (f t.inner).2 := by
  unfold call
  split <;> rename_i h <;> rw [h]

theorem unanswered_le_call (f : δ → Outcome RuntimeError α × δ) (t : Tallied δ) :
    t.unanswered ≤ (t.call f).2.unanswered := by
  unfold call
  split <;> simp

theorem call_answered {f : δ → Outcome RuntimeError α × δ} {t : Tallied δ}
    (h : (t.call f).2.unanswered = t.unanswered) : ∃ a,(t.call f).1 = .done a := by
  unfold call at h ⊢
  split at h
  · exact ⟨_,rfl⟩
  · exact absurd h (by simp)
  · exact absurd h (by simp)

instance [ContainerRuntime δ] : ContainerRuntime (Tallied δ) where
  labelKeys t := ContainerRuntime.labelKeys t.inner
  list := call ContainerRuntime.list
  describe n := call (ContainerRuntime.describe n)
  openUsage n i := call (ContainerRuntime.openUsage n i)
  watch types := call (ContainerRuntime.watch types)
  takeEvents i t :=
    ((ContainerRuntime.takeEvents i t.inner).1,
      { t with inner := (ContainerRuntime.takeEvents i t.inner).2 })
  unwatch i t := { t with inner := ContainerRuntime.unwatch i t.inner }

theorem describe_eq [ContainerRuntime δ] (n : String) (t : Tallied δ) :
    ContainerRuntime.describe n t = t.call (ContainerRuntime.describe n) := rfl

theorem openUsage_eq [ContainerRuntime δ] (n : String) (i : ChannelId) (t : Tallied δ) :
    ContainerRuntime.openUsage n i t = t.call (ContainerRuntime.openUsage n i) := rfl

theorem call_done {f : δ → Outcome RuntimeError α × δ} {t t' : Tallied δ} {a : α}
    (h : t.call f = (.done a,t')) : f t.inner = (.done a,t'.inner) := by
  have ha := call_fst f t
  have hi := call_inner f t
  rw [h] at ha hi
  exact Prod.ext ha.symm hi.symm

instance [ContainerRuntime δ] [FaithfulRuntime δ] : FaithfulRuntime (Tallied δ) where
  Valid t := FaithfulRuntime.Valid t.inner
  describe_name := fun ht h => FaithfulRuntime.describe_name ht (call_done h)
  openUsage_name := fun ht h => FaithfulRuntime.openUsage_name ht (call_done h)
  describe_valid := by
    intro n t ht
    rw [describe_eq,call_inner]
    exact FaithfulRuntime.describe_valid ht
  openUsage_valid := by
    intro n i t ht
    rw [openUsage_eq,call_inner]
    exact FaithfulRuntime.openUsage_valid ht

end Tallied

namespace Tapped

instance [Backend ρ] : Backend (Tapped ρ) where
  deliver r b :=
    ((Backend.deliver r b.inner).1,⟨(Backend.deliver r b.inner).2,b.handed++[r]⟩)

end Tapped

namespace Core

variable {k : Core (Tallied δ) (Tapped ρ)}

def bare (k : Core (Tallied δ) (Tapped ρ)) : Core δ ρ :=
  ⟨k.registry,k.collector,k.runtime.inner,k.backend.inner,k.clock⟩

def bareOf (p : α × Core (Tallied δ) (Tapped ρ)) : α × Core δ ρ := (p.1,p.2.bare)

theorem bare_deliver [Backend ρ] (r : Report) (k : Core (Tallied δ) (Tapped ρ)) :
    bareOf (k.deliver r) = k.bare.deliver r := rfl

theorem bare_halt (name : String) (k : Core (Tallied δ) (Tapped ρ)) :
    bareOf (k.halt name) = k.bare.halt name := by
  rcases h : k.collector.stop name with ⟨o,d,es⟩
  have hb : k.bare.collector.stop name = (o,d,es) := h
  cases o with
  | channel i =>
    rw [halt_channel h,halt_channel hb]
    rfl
  | notFound =>
    rw [halt_notFound h,halt_notFound hb]
    rfl
  | lost =>
    rw [halt_lost h,halt_lost hb]
    rfl

variable [ContainerRuntime δ]

theorem bare_start (name : String) (k : Core (Tallied δ) (Tapped ρ)) :
    bareOf (k.start name) = k.bare.start name := by
  cases hc : k.collector.isCollecting name with
  | true =>
    rw [start_collecting hc,start_collecting (k := k.bare) hc]
    rfl
  | false =>
    have hf := Tallied.call_fst (ContainerRuntime.openUsage name k.collector.channels.next) k.runtime
    have hi := Tallied.call_inner (ContainerRuntime.openUsage name k.collector.channels.next) k.runtime
    rcases h : ContainerRuntime.openUsage name k.collector.channels.next k.runtime with ⟨o,runtime⟩
    rw [← Tallied.openUsage_eq,h] at hf hi
    have hb : ContainerRuntime.openUsage name k.bare.collector.channels.next k.bare.runtime =
        (o,runtime.inner) := Prod.ext hf.symm hi.symm
    cases o with
    | done o =>
      rw [start_done hc h,start_done (k := k.bare) hc hb]
      rfl
    | failed e =>
      rw [start_failed hc h,start_failed (k := k.bare) hc hb]
      rfl
    | crashed =>
      rw [start_crashed hc h,start_crashed (k := k.bare) hc hb]
      rfl

theorem bare_sample (c : StateChange) (k : Core (Tallied δ) (Tapped ρ)) :
    bareOf (k.sample c) = k.bare.sample c := by
  unfold sample
  cases c.state with
  | running => exact bare_start c.containerName k
  | stopped => exact bare_halt c.containerName k
  | unknown => rfl

theorem bare_look (c : StateChange) (k : Core (Tallied δ) (Tapped ρ)) :
    bareOf (k.look c) = k.bare.look c := by
  cases hc : c.isResolved with
  | true =>
    rw [look_resolved hc,look_resolved hc]
    rfl
  | false =>
    have hf := Tallied.call_fst (ContainerRuntime.describe c.containerName) k.runtime
    have hi := Tallied.call_inner (ContainerRuntime.describe c.containerName) k.runtime
    rcases h : ContainerRuntime.describe c.containerName k.runtime with ⟨o,runtime⟩
    rw [← Tallied.describe_eq,h] at hf hi
    have hb : ContainerRuntime.describe c.containerName k.bare.runtime = (o,runtime.inner) :=
      Prod.ext hf.symm hi.symm
    cases o with
    | done info =>
      rw [look_done hc h,look_done hc hb]
      rfl
    | failed e =>
      by_cases he : ∃ n,e = .notFound n
      · obtain ⟨n,rfl⟩ := he
        rw [look_notFound hc h,look_notFound hc hb]
        rfl
      · have he : ∀ n,e ≠ .notFound n := fun n hn => he ⟨n,hn⟩
        rw [look_failed hc h he,look_failed hc hb he]
        rfl
    | crashed =>
      rw [look_crashed hc h,look_crashed hc hb]
      rfl

variable [Backend ρ]

theorem bare_follow (meterId : String) (c : StateChange) (k : Core (Tallied δ) (Tapped ρ)) :
    bareOf (k.follow meterId c) = k.bare.follow meterId c := by
  have hs := bare_sample c k
  rcases h : k.sample c with ⟨o,l⟩
  rw [h] at hs
  cases o with
  | error p =>
    rw [follow_error h,follow_error hs.symm]
    rfl
  | ok u =>
    rw [follow_ok h,follow_ok hs.symm]
    rfl

theorem bare_change (meterId : String) (c : StateChange) (k : Core (Tallied δ) (Tapped ρ)) :
    bareOf (k.change meterId c) = k.bare.change meterId c := by
  have hb : k.bare.registry = k.registry := rfl
  unfold change
  rw [hb]
  by_cases hn : k.registry.isRegistered c.containerName = true
  · rw [if_pos hn,if_pos hn]
    cases c.state with
    | running =>
      have hl := bare_look c k
      rcases h : k.look c with ⟨o,l⟩
      rw [h] at hl
      cases o with
      | error p =>
        simp only [← hl,bareOf]
      | ok c =>
        simp only [← hl,bareOf]
        exact bare_follow meterId c l
    | stopped => exact bare_follow meterId _ _
    | unknown => exact bare_follow meterId c k
  · rw [if_neg hn,if_neg hn]
    rfl

theorem bare_discover (meterId : String) (c : Container) (k : Core (Tallied δ) (Tapped ρ)) :
    bareOf (k.discover meterId c) = k.bare.discover meterId c := by
  have hb : k.bare.registry = k.registry := rfl
  simp only [discover,hb]
  rcases k.registry.register c with ⟨a,registry⟩
  cases a with
  | added => exact bare_follow meterId _ _
  | present => rfl
  | notTrackable => rfl

theorem bare_send (meterId : String) (msg : Message) (k : Core (Tallied δ) (Tapped ρ)) :
    bareOf (k.send meterId msg) = k.bare.send meterId msg := by
  cases msg with
  | discovery c => exact bare_discover meterId c k
  | change c => exact bare_change meterId c k
  | sample x => exact bare_deliver _ k
  | report r => exact bare_deliver r k
  | devnull => rfl

end Core

end HostMeter
