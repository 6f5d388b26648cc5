import HostMeter.Api
import HostMeter.Proofs.Table
import HostMeter.Proofs.Tracking.Registry
import HostMeter.Proofs.Workers.Team
import Mathlib.Data.List.Induction
set_option autoImplicit false

/-! Several callers of one registry. Registering a container takes two steps, for the policy is asked
before the entry is taken; dropping takes one. In whatever order the steps come, whoever is first to
register a name has it until it is dropped, and what the callers are told accounts for what is there. -/

namespace HostMeter.Registry

inductive Call
  | register (c : Container)
  | drop (name : String)
  deriving DecidableEq

inductive Deed
  | register (c : Container) (answer : Registration)
  | drop (name : String) (was : Bool)
  deriving DecidableEq

namespace Deed

def added? (n : String) : Deed → Option Container
  | .register c .added => if c.name = n then some c else none
  | _ => none

def adds (n : String) (d : Deed) : Bool := (d.added? n).isSome

def drops (n : String) : Deed → Bool
  | .drop m _ => m = n
  | .register _ _ => false

def removes (n : String) : Deed → Bool
  | .drop m was => was && m = n
  | .register _ _ => false

/-- Its answer says that it has neither put nor taken anything. -/
def idle : Deed → Bool
  | .register _ a => a ≠ .added
  | .drop _ was => !was

def call : Deed → Call
  | .register c _ => .register c
  | .drop n _ => .drop n

/-- The answer is the one that the registry before it gives under the policy, and the registry after it
is as the answer says. -/
def Does (p : Policy) (r r' : Registry) : Deed → Prop
  | .register c .added => p.isTrackable c = true ∧ r.isRegistered c.name = false ∧
      ∀ n,r'.get? n = if n = c.name then some c else r.get? n
  | .register c .present => p.isTrackable c = true ∧ r.isRegistered c.name = true ∧ r' = r
  | .register c .notTrackable => p.isTrackable c = false ∧ r' = r
  | .drop n was => was = r.isRegistered n ∧ ∀ m,r'.get? m = if m = n then none else r.get? m

end Deed

def since (p : Deed → Bool) (ds : List Deed) : List Deed :=
  (ds.reverse.takeWhile (fun d => !p d)).reverse

/-- The first container to be put under a name after the last deed of a kind. -/
def firstSince (p : Deed → Bool) (n : String) (ds : List Deed) : Option Container :=
  (since p ds).findSome? (Deed.added? n)

theorem since_concat (p : Deed → Bool) (ds : List Deed) (d : Deed) :
    since p (ds++[d]) = if p d then [] else since p ds++[d] := by
  cases h : p d <;> simp [since,h]

theorem firstSince_concat (p : Deed → Bool) (n : String) (ds : List Deed) (d : Deed) :
    firstSince p n (ds++[d]) = if p d then none else (firstSince p n ds).or (d.added? n) := by
  rw [firstSince,since_concat]
  split
  · rfl
  · rw [List.findSome?_append]
    cases h : d.added? n <;> simp [firstSince,h]

structure Ledger where
  registry : Registry
  deeds : List Deed := []

/-- Takes the entry of a container's name, whatever the policy says. -/
def enter (r : Registry) (c : Container) : Registration × Registry :=
  if r.isRegistered c.name then (.present,r)
  else (.added,{ r with containers := r.containers.insert c.name c })

theorem register_eq_enter {r : Registry} {c : Container} (h : r.isTrackable c = true) :
    r.register c = r.enter c := by
  cases hp : r.isRegistered c.name with
  | true => rw [register_present h hp,enter,if_pos hp]
  | false => simp [register_added h hp,enter,hp]

namespace Ledger

def record (l : Ledger) (d : Deed) (r : Registry) : Ledger := ⟨r,l.deeds++[d]⟩

def call (l : Ledger) : Call → Ledger
  | .register c => l.record (.register c (l.registry.register c).1) (l.registry.register c).2
  | .drop n => l.record (.drop n (l.registry.drop n).1) (l.registry.drop n).2

/-- What the callers have been told accounts for the registry. -/
structure Accounts (p : Policy) (l : Ledger) : Prop where
  policy : l.registry.policy = p
  keyed : l.registry.Keyed
  trackable : ∀ n c,l.registry.get? n = some c → p.isTrackable c = true
  dropped : ∀ n,l.registry.get? n = firstSince (Deed.drops n) n l.deeds
  removed : ∀ n,l.registry.get? n = firstSince (Deed.removes n) n l.deeds
  balance : ∀ n,l.deeds.countP (Deed.adds n) =
    l.deeds.countP (Deed.removes n)+(l.registry.isRegistered n).toNat

theorem accounts_empty (p : Policy) : Accounts p ⟨{ policy := p },[]⟩ where
  policy := rfl
  keyed := keyed_of_empty rfl
  trackable := by
    intro n c h
    cases h
  dropped _ := rfl
  removed _ := rfl
  balance _ := rfl

variable {p : Policy} {l : Ledger} {c : Container}

theorem firstSince_register {kind : Deed → Bool} (hk : ∀ c a,kind (.register c a) = false) {n : String}
    (h : l.registry.get? n = firstSince kind n l.deeds) (c : Container) :
    (l.call (.register c)).registry.get? n = firstSince kind n (l.call (.register c)).deeds := by
  show (l.registry.register c).2.get? n = firstSince kind n (l.deeds++[_])
  rw [firstSince_concat,if_neg (by simp [hk]),get?_register,← h]
  by_cases ha : (l.registry.register c).1 = .added
  · by_cases hn : n = c.name
    · have hnone := get?_of_not_isRegistered (register_eq_added_iff.mp ha).2
      rw [hn,hnone]
      simp [ha,Deed.added?]
    · have hadd : Deed.added? n (.register c .added) = none := if_neg fun h => hn h.symm
      rw [if_neg fun h => hn h.2,ha,hadd,Option.or_none]
  · have hadd : Deed.added? n (.register c (l.registry.register c).1) = none := by
      cases hr : (l.registry.register c).1 with
      | added => exact absurd hr ha
      | present => rfl
      | notTrackable => rfl
    rw [if_neg fun h => ha h.1,hadd,Option.or_none]

theorem Accounts.register (h : Accounts p l) (c : Container) : Accounts p (l.call (.register c)) where
  policy := (register_policy l.registry c).trans h.policy
  keyed := h.keyed.register c
  trackable := by
    intro n info hn
    rw [show (l.call (.register c)).registry = (l.registry.register c).2 from rfl,get?_register] at hn
    split at hn
    · rename_i ha
      cases hn
      rw [← h.policy]
      exact (register_eq_added_iff.mp ha.1).1
    · exact h.trackable n info hn
  dropped n := firstSince_register (fun _ _ => rfl) (h.dropped n) c
  removed n := firstSince_register (fun _ _ => rfl) (h.removed n) c
  balance n := by
    have hb := h.balance n
    have hd : (l.call (.register c)).deeds =
        l.deeds++[.register c (l.registry.register c).1] := rfl
    have hr : (l.call (.register c)).registry = (l.registry.register c).2 := rfl
    rw [hd,hr]
    simp only [List.countP_append,List.countP_singleton,isRegistered_register]
    by_cases ha : (l.registry.register c).1 = .added
    · have hnew := (register_eq_added_iff.mp ha).2
      by_cases hn : c.name = n
      · subst hn
        simp [Deed.adds,Deed.added?,Deed.removes,ha,hnew] at hb ⊢
        omega
      · have hn' : n ≠ c.name := fun he => hn he.symm
        simpa [Deed.adds,Deed.added?,Deed.removes,ha,hn,hn'] using hb
    · have hadd : Deed.adds n (.register c (l.registry.register c).1) = false := by
        cases hr : (l.registry.register c).1 with
        | added => exact absurd hr ha
        | present => rfl
        | notTrackable => rfl
      simpa [hadd,Deed.removes,ha] using hb

theorem Accounts.drop (h : Accounts p l) (m : String) : Accounts p (l.call (.drop m)) where
  policy := h.policy
  keyed := h.keyed.drop m
  trackable := by
    intro n info hn
    rw [show (l.call (.drop m)).registry = (l.registry.drop m).2 from rfl,get?_drop] at hn
    split at hn
    · cases hn
    · exact h.trackable n info hn
  dropped n := by
    show (l.registry.drop m).2.get? n = firstSince (Deed.drops n) n (l.deeds++[.drop m _])
    rw [firstSince_concat,get?_drop,← h.dropped n]
    by_cases hn : n = m
    · simp [hn,Deed.drops]
    · have hm : m ≠ n := fun he => hn he.symm
      simp [hn,hm,Deed.drops,Deed.added?]
  removed n := by
    show (l.registry.drop m).2.get? n =
      firstSince (Deed.removes n) n (l.deeds++[.drop m (l.registry.isRegistered m)])
    rw [firstSince_concat,get?_drop,← h.removed n]
    by_cases hn : n = m
    · cases hr : l.registry.isRegistered m with
      | true => simp [hn,Deed.removes]
      | false => simp [hn,Deed.removes,Deed.added?,get?_of_not_isRegistered hr]
    · have hm : m ≠ n := fun he => hn he.symm
      simp [hn,hm,Deed.removes,Deed.added?]
  balance n := by
    have hb := h.balance n
    have hd : (l.call (.drop m)).deeds = l.deeds++[.drop m (l.registry.isRegistered m)] := rfl
    have hr : (l.call (.drop m)).registry = (l.registry.drop m).2 := rfl
    rw [hd,hr]
    simp only [List.countP_append,List.countP_singleton,isRegistered_drop]
    by_cases hn : m = n
    · subst hn
      cases hr : l.registry.isRegistered m <;> simp [Deed.adds,Deed.added?,Deed.removes,hr] at hb ⊢ <;> omega
    · have hn' : n ≠ m := fun he => hn he.symm
      simpa [Deed.adds,Deed.added?,Deed.removes,hn,hn'] using hb

theorem Accounts.call (h : Accounts p l) (q : Call) : Accounts p (l.call q) := by
  cases q with
  | register c => exact h.register c
  | drop n => exact h.drop n

theorem call_does (hp : l.registry.policy = p) (q : Call) :
    ∃ d,(l.call q).deeds = l.deeds++[d] ∧ d.call = q ∧ d.Does p l.registry (l.call q).registry ∧
      (d.idle = true → (l.call q).registry = l.registry) := by
  cases q with
  | register c =>
    refine ⟨_,rfl,rfl,?_,fun hd => register_snd_of_ne (by simpa [Deed.idle] using hd)⟩
    show Deed.Does p l.registry (l.registry.register c).2 (.register c (l.registry.register c).1)
    cases ht : l.registry.isTrackable c with
    | false =>
      rw [register_untrackable ht]
      exact ⟨hp ▸ ht,rfl⟩
    | true =>
      cases hn : l.registry.isRegistered c.name with
      | true =>
        rw [register_present ht hn]
        exact ⟨hp ▸ ht,hn,rfl⟩
      | false =>
        have ha : (l.registry.register c).1 = .added := register_eq_added_iff.mpr ⟨ht,hn⟩
        rw [ha]
        refine ⟨hp ▸ ht,hn,fun n => ?_⟩
        simp [get?_register,ha]
  | drop n =>
    exact ⟨_,rfl,rfl,⟨rfl,fun m => get?_drop ..⟩,
      fun hd => drop_of_not_isRegistered (by simpa [Deed.idle,Registry.drop] using hd)⟩

end Ledger

structure Caller where
  calls : List Call
  /-- The policy has let the container of the first call pass. -/
  admitted : Bool := false

namespace Caller

def step (w : Caller) (l : Ledger) : Caller × Ledger :=
  match w.calls with
  | [] => (w,l)
  | .drop n :: rest => (⟨rest,false⟩,l.record (.drop n (l.registry.drop n).1) (l.registry.drop n).2)
  | .register c :: rest =>
    if w.admitted then
      (⟨rest,false⟩,l.record (.register c (l.registry.enter c).1) (l.registry.enter c).2)
    else if l.registry.isTrackable c then (⟨w.calls,true⟩,l)
    else (⟨rest,false⟩,l.record (.register c .notTrackable) l.registry)

def Honest (p : Policy) (w : Caller) : Prop :=
  w.admitted = true → ∃ c rest,w.calls = .register c :: rest ∧ p.isTrackable c = true

variable {p : Policy} {w : Caller} {l : Ledger}

theorem honest_of_asking (p : Policy) (cs : List Call) : Honest p ⟨cs,false⟩ := by
  intro h
  cases h

theorem step_admitted {c : Container} {rest : List Call} (h : l.registry.isTrackable c = true) :
    step ⟨.register c :: rest,true⟩ l = (⟨rest,false⟩,l.call (.register c)) := by
  simp only [step,if_true,Ledger.call,register_eq_enter h]

theorem step_asking {c : Container} {rest : List Call} (h : l.registry.isTrackable c = true) :
    step ⟨.register c :: rest,false⟩ l = (⟨.register c :: rest,true⟩,l) := by
  simp [step,h]

theorem step_barred {c : Container} {rest : List Call} (h : l.registry.isTrackable c = false) :
    step ⟨.register c :: rest,false⟩ l = (⟨rest,false⟩,l.call (.register c)) := by
  simp [step,h,Ledger.call,register_untrackable h]

/-- A step leaves all as it is, but for what the caller knows, or it comes to the whole of its next call. -/
theorem step_cases (hw : w.Honest p) (hp : l.registry.policy = p) :
    (w.step l).1.Honest p ∧ ((w.step l).1.calls = w.calls ∧ (w.step l).2 = l ∨
      ∃ q rest,w.calls = q :: rest ∧ w.step l = (⟨rest,false⟩,l.call q)) := by
  subst hp
  obtain ⟨calls,admitted⟩ := w
  cases calls with
  | nil => exact ⟨hw,.inl ⟨rfl,rfl⟩⟩
  | cons q rest =>
    cases q with
    | drop n => exact ⟨honest_of_asking _ rest,.inr ⟨.drop n,rest,rfl,rfl⟩⟩
    | register c =>
      cases admitted with
      | true =>
        obtain ⟨c',rest',hc,ht⟩ := hw rfl
        cases hc
        exact ⟨honest_of_asking _ rest,.inr ⟨.register c,rest,rfl,step_admitted ht⟩⟩
      | false =>
        cases ht : l.registry.isTrackable c with
        | true =>
          rw [step_asking ht]
          exact ⟨fun _ => ⟨c,rest,rfl,ht⟩,.inl ⟨rfl,rfl⟩⟩
        | false =>
          rw [step_barred ht]
          exact ⟨honest_of_asking _ rest,.inr ⟨.register c,rest,rfl,rfl⟩⟩

/-- Whoever is not interrupted has its next call answered with its second step at the latest. -/
theorem alone_answered {q : Call} {rest : List Call} {admitted : Bool}
    (hw : Honest p ⟨q :: rest,admitted⟩) (hp : l.registry.policy = p) :
    ∃ k ≤ 2,(Team.alone step k ⟨q :: rest,admitted⟩ l).2 = l.call q := by
  subst hp
  cases q with
  | drop n => exact ⟨1,by decide,rfl⟩
  | register c =>
    cases admitted with
    | true =>
      obtain ⟨c',rest',hc,ht⟩ := hw rfl
      cases hc
      refine ⟨1,by decide,?_⟩
      rw [Team.alone_step (step_admitted ht)]
      rfl
    | false =>
      cases ht : l.registry.isTrackable c with
      | true =>
        refine ⟨2,Nat.le_refl 2,?_⟩
        rw [Team.alone_step (step_asking ht),Team.alone_step (step_admitted ht)]
        rfl
      | false =>
        refine ⟨1,by decide,?_⟩
        rw [Team.alone_step (step_barred ht)]
        rfl

end Caller

abbrev Callers := Team Caller Ledger

namespace Callers

def ofCalls (p : Policy) (css : List (List Call)) : Callers :=
  ⟨⟨{ policy := p },[]⟩,css.map fun cs => ⟨cs,false⟩⟩

def run (us : List Nat) (t : Callers) : Callers := us.foldl (fun t i => t.step Caller.step i) t

theorem run_concat (us : List Nat) (i : Nat) (t : Callers) :
    run (us++[i]) t = (run us t).step Caller.step i := by
  simp [run]

structure Sound (p : Policy) (t : Callers) : Prop where
  honest : ∀ w ∈ t.members,w.Honest p
  accounts : t.state.Accounts p

variable {p : Policy} {t : Callers}

theorem sound_ofCalls (p : Policy) (css : List (List Call)) : Sound p (ofCalls p css) where
  honest := by
    intro w hw
    obtain ⟨cs,-,rfl⟩ := List.mem_map.mp hw
    exact Caller.honest_of_asking p cs
  accounts := Ledger.accounts_empty p

theorem Sound.step (h : Sound p t) (i : Nat) :
    Sound p (t.step Caller.step i) ∧ ((t.step Caller.step i).state = t.state ∨
      ∃ q,(t.step Caller.step i).state = t.state.call q) := by
  cases hw : t.members[i]? with
  | none =>
    rw [Team.step_none hw]
    exact ⟨h,.inl rfl⟩
  | some w =>
    obtain ⟨hh,hc⟩ := Caller.step_cases (h.honest w (List.mem_of_getElem? hw)) h.accounts.policy
    have hs : (w.step t.state).2 = t.state ∨ ∃ q,(w.step t.state).2 = t.state.call q := by
      rcases hc with ⟨-,hl⟩ | ⟨q,rest,-,hq⟩
      · exact .inl hl
      · exact .inr ⟨q,congrArg Prod.snd hq⟩
    rw [Team.step_some hw]
    refine ⟨⟨fun x hx => ?_,?_⟩,hs⟩
    · rcases List.mem_or_eq_of_mem_set hx with hx | rfl
      · exact h.honest x hx
      · exact hh
    · show Ledger.Accounts p (w.step t.state).2
      rcases hs with hs | ⟨q,hs⟩
      · rw [hs]
        exact h.accounts
      · rw [hs]
        exact h.accounts.call q

theorem sound_run (p : Policy) (css : List (List Call)) (us : List Nat) :
    Sound p (run us (ofCalls p css)) := by
  induction us using List.reverseRecOn with
  | nil => exact sound_ofCalls p css
  | append_singleton us i ih =>
    rw [run_concat]
    exact (ih.step i).1

theorem Sound.answered (h : Sound p t) {i : Nat} {q : Call} {rest : List Call} {admitted : Bool}
    (hi : t.members[i]? = some ⟨q :: rest,admitted⟩) :
    ∃ k ≤ 2,(run (List.replicate k i) t).state = t.state.call q := by
  obtain ⟨k,hk,ha⟩ :=
    Caller.alone_answered (h.honest _ (List.mem_of_getElem? hi)) h.accounts.policy
  refine ⟨k,hk,?_⟩
  rw [run,Team.foldl_replicate (fun _ => rfl) hi]
  exact ha

end Callers

theorem list_increasing {r : Registry} (h : r.Keyed) :
    r.list.Pairwise (fun a b => a.name < b.name) := by
  refine List.pairwise_map.mpr (r.containers.ordered.imp_of_mem ?_)
  intro a b ha hb hab
  have hname : ∀ e ∈ r.containers.entries,e.2.name = e.1 := fun e he =>
    h e.1 e.2 (Table.mem_entries_iff.mp he)
  rw [hname a ha,hname b hb]
  exact hab

theorem answer_containers (s : ApiState) :
    Api.answer "GET" "/containers" s = Api.document 200 (.arr (s.registry.list.map Container.codec.write)) := by
  have hpath : Api.pathOf "/containers" = "/containers" := by decide
  simp only [Api.answer,hpath,Api.resource?]
  rfl

/-- In whatever order the callers take their steps: every entry is a container under its own name that
the policy admits. It is the first that was added under the name since a caller last had the name dropped,
or, which is the same, since the name was last taken away. A name has been added as often as it has been
taken away, and once more if it is registered. A step that ends in an answer has done what the answer says,
and left the registry as it was if that is nothing; one that ends in no answer has done nothing. No caller
waits for another: with its second step at the latest its next call is answered, so a container that the
policy admits is added if its name is free. Asked for its containers, the meter lists what is registered,
each once, by increasing names. -/
theorem first_writer_holds (p : Policy) (css : List (List Call)) (us : List Nat) :
    let after (vs : List Nat) : Ledger := (Callers.run vs (Callers.ofCalls p css)).state
    let r := (after us).registry
    let ds := (after us).deeds
    (∀ n c,r.get? n = some c → c.name = n ∧ p.isTrackable c = true) ∧
    (∀ n,r.get? n = firstSince (Deed.drops n) n ds ∧ r.get? n = firstSince (Deed.removes n) n ds) ∧
    (∀ n,ds.countP (Deed.adds n) =
      ds.countP (Deed.removes n)+if r.isRegistered n = true then 1 else 0) ∧
    (∀ i,after (us++[i]) = after us ∨ ∃ d,(after (us++[i])).deeds = ds++[d] ∧
      d.Does p r (after (us++[i])).registry ∧ (d.idle = true → (after (us++[i])).registry = r)) ∧
    (∀ (i : Nat) (q : Call) (rest : List Call) (admitted : Bool),
      (Callers.run us (Callers.ofCalls p css)).members[i]? = some ⟨q :: rest,admitted⟩ →
      ∃ k ≤ 2,∃ d,(after (us++List.replicate k i)).deeds = ds++[d] ∧ d.call = q ∧
        d.Does p r (after (us++List.replicate k i)).registry) ∧
    ∀ health metrics,∃ cs : List Container,
      Api.answer "GET" "/containers" ⟨health,r,metrics⟩ =
        Api.document 200 (.arr (cs.map Container.codec.write)) ∧
      cs.Pairwise (fun a b => a.name < b.name) ∧ ∀ c,c ∈ cs ↔ ∃ n,r.get? n = some c := by
  intro after r ds
  have hs := Callers.sound_run p css us
  have ha := hs.accounts
  refine ⟨fun n c hc => ⟨ha.keyed n c hc,ha.trackable n c hc⟩,fun n => ⟨ha.dropped n,ha.removed n⟩,
    fun n => ?_,fun i => ?_,fun i q rest admitted hi => ?_,fun health metrics => ?_⟩
  · have hb := ha.balance n
    cases hr : r.isRegistered n <;> rw [hr] at hb <;> exact hb
  · have hi : after (us++[i]) = ((Callers.run us (Callers.ofCalls p css)).step Caller.step i).state :=
      congrArg Team.state (Callers.run_concat us i _)
    rcases (hs.step i).2 with hq | ⟨q,hq⟩
    · exact .inl (hi.trans hq)
    · rw [hi,hq]
      obtain ⟨d,hd,-,hdoes,hidle⟩ := Ledger.call_does ha.policy q
      exact .inr ⟨d,hd,hdoes,hidle⟩
  · obtain ⟨k,hk,hq⟩ := hs.answered hi
    obtain ⟨d,hd,hc,hdoes,-⟩ := Ledger.call_does ha.policy q
    have hafter : after (us++List.replicate k i) = (after us).call q :=
      (congrArg Team.state (List.foldl_append ..)).trans hq
    refine ⟨k,hk,d,?_,hc,?_⟩ <;> rw [hafter]
    · exact hd
    · exact hdoes
  · exact ⟨r.list,answer_containers _,list_increasing ha.keyed,fun c => Table.mem_values_iff⟩

end HostMeter.Registry
