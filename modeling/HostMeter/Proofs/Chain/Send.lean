import HostMeter.Proofs.Chain.Effects
import HostMeter.Proofs.Chain.Filters
set_option autoImplicit false

/-! Sending a message through the eight filters of the standard chain is, as far as the core goes,
what the course of the message tells. -/

namespace HostMeter

variable {δ ρ : Type} [ContainerRuntime δ] [Backend ρ]

namespace Core

def passAll (meterId : String) : List Nat → Message → Core δ ρ → Passage × Core δ ρ
  | [],msg,k => (.through msg,k)
  | i :: is,msg,k =>
    match k.pass meterId i msg with
    | (.error p,k) => (p,k)
    | (.ok msg,k) => k.passAll meterId is msg

variable {meterId : String} {i : Nat} {is : List Nat} {msg msg' : Message} {c : StateChange}
  {k l : Core δ ρ}

theorem passAll_ok (h : k.pass meterId i msg = (.ok msg',l)) :
    k.passAll meterId (i :: is) msg = l.passAll meterId is msg' := by
  rw [passAll,h]

theorem passAll_error {p : Passage} (h : k.pass meterId i msg = (.error p,l)) :
    k.passAll meterId (i :: is) msg = (p,l) := by
  rw [passAll,h]

theorem passAll_sampling (meterId : String) (c : StateChange) (k : Core δ ρ) :
    k.passAll meterId [4,5,6,7] (.change c) = k.follow meterId c := by
  have hp := pass_sample meterId k c
  rcases h : k.sample c with ⟨a,l⟩
  rw [h] at hp
  cases a with
  | error p => rw [passAll_error hp,follow_error h]
  | ok u =>
    rw [passAll_ok hp,follow_ok h]
    rfl

theorem passAll_service (meterId : String) (c : StateChange) (k : Core δ ρ) :
    k.passAll meterId [3,4,5,6,7] (.change c) = k.follow meterId c := passAll_sampling meterId c k

theorem passAll_resolved (hc : c.isResolved = true) (k : Core δ ρ) :
    k.passAll meterId [2,3,4,5,6,7] (.change c) = k.follow meterId c := by
  rw [passAll_ok ((pass_resolve meterId k c).trans (resolve_resolved hc)),passAll_service]

theorem passAll_unknown (hs : c.state = .unknown) (k : Core δ ρ) :
    k.passAll meterId [2,3,4,5,6,7] (.change c) = k.follow meterId c := by
  rw [passAll_ok ((pass_resolve meterId k c).trans (resolve_unknown hs)),passAll_service]

theorem passAll_look (hs : c.state = .running) (k : Core δ ρ) :
    k.passAll meterId [2,3,4,5,6,7] (.change c) =
      match k.look c with
      | (.error p,k) => (p,k)
      | (.ok c,k) => k.follow meterId c := by
  have hp := (pass_resolve meterId k c).trans (resolve_running hs)
  rcases h : k.look c with ⟨a,l⟩
  rw [h] at hp
  cases a with
  | error p => exact passAll_error hp
  | ok c' => exact (passAll_ok hp).trans (passAll_service meterId c' l)

theorem passAll_change (meterId : String) (c : StateChange) (k : Core δ ρ) :
    k.passAll meterId [1,2,3,4,5,6,7] (.change c) = k.change meterId c := by
  have hp := pass_change meterId k c
  cases hn : k.registry.isRegistered c.containerName with
  | false => rw [change_untracked hn,passAll_error (hp.trans (check_untracked hn))]
  | true =>
    cases hs : c.state with
    | stopped =>
      -- A stop leaves the registry with a descriptor, which the resolver leaves alone.
      have hc := StateChange.resolvedIn_isResolved hn
      rw [change_stopped hn hs,passAll_ok (hp.trans (check_stopped hn hs)),passAll_resolved hc]
    | running =>
      have ht := check_tracked hn (by simp [hs])
      rw [passAll_ok (hp.trans ht),passAll_look hs]
      exact (change_running hn hs).symm
    | unknown =>
      have ht := check_tracked hn (by simp [hs])
      rw [change_unknown hn hs,passAll_ok (hp.trans ht),passAll_unknown hs]

theorem passAll_discovery (meterId : String) (info : Container) (k : Core δ ρ) :
    k.passAll meterId [1,2,3,4,5,6,7] (.discovery info) = k.discover meterId info := by
  have hp := pass_discovery meterId k info
  by_cases h : (k.registry.register info).1 = .added
  · rw [discover_added h,passAll_ok (hp.trans (enter_added h)),passAll_resolved rfl]
  · rw [discover_refused h,passAll_error (hp.trans (enter_refused h))]

theorem passAll_send (meterId : String) (msg : Message) (k : Core δ ρ) :
    k.passAll meterId [0,1,2,3,4,5,6,7] msg = k.send meterId msg := by
  cases msg with
  | discovery c => exact passAll_discovery meterId c k
  | change c => exact passAll_change meterId c k
  | sample x => rfl
  | report r => rfl
  | devnull => rfl

end Core

namespace Meter

open Pipeline Chain

def outcome (p : Passage × Meter δ ρ) : Passage × Core δ ρ := (p.1,p.2.core)

theorem outcome_cons {f : Filter (Meter δ ρ)} {fs : List (Filter (Meter δ ρ))} {meterId : String}
    {i : Nat} {is : List Nat} (hf : ∀ msg m,passed (f.pass msg m) = m.core.pass meterId i msg)
    (hfs : ∀ msg m,outcome (runIn {} fs msg m) = m.core.passAll meterId is msg) (msg : Message)
    (m : Meter δ ρ) :
    outcome (runIn {} (f :: fs) msg m) = m.core.passAll meterId (i :: is) msg := by
  rw [runIn_cons,Core.passAll,← hf msg m]
  rcases f.pass msg m with ⟨a,m'⟩
  cases a with
  | error p => rfl
  | ok msg' => exact hfs msg' m'

/-- A send does to the core what the course of its message tells. -/
theorem outcome_send (s : ChainSettings) (msg : Message) (m : Meter δ ρ) :
    outcome (m.send s msg) = m.core.send s.meterId msg := by
  rw [← Core.passAll_send]
  exact outcome_cons passed_logger
    (outcome_cons (passed_registry s.meterId)
      (outcome_cons (passed_containerResolver s.meterId)
        (outcome_cons (passed_service s.serviceKey)
          (outcome_cons (passed_sampleCollector s.meterId)
            (outcome_cons (passed_reportGenerator s.meterId)
              (outcome_cons (passed_reporter s)
                (outcome_cons passed_notHandled (fun _ _ => rfl)))))))) msg m

end Meter

end HostMeter
