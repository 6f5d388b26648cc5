import HostMeter.Proofs.Chain.Deliveries
import HostMeter.Proofs.Workers.Hall
set_option autoImplicit false

/-! Workers that others may come between in the middle of a report. The receiver has answered one of them,
and before the answer is counted or shows in the health of the reporter, another may have been answered,
and be done first. A worker that is left alone does as it does filter by filter. -/

namespace HostMeter

variable {δ ρ σ : Type}

namespace Desk

variable {fs : List (Filter σ)} {d : Desk} {m : Message} {g : Flight} {r : Report}

/-- The report that is handed over in the next step, with the message and the flight that it is of. -/
def handing? (fs : List (Filter σ)) : Desk → Option (Message × Flight × Report)
  | .busy m g =>
    match g.fate,fs[g.passed]?,g.message with
    | none,some f,.report r => if f.name = "reporter" then some (m,g,r) else none
    | _,_,_ => none
  | _ => none

theorem handing?_cases (h : d.handing? fs = some (m,g,r)) :
    d = .busy m g ∧ g.fate = none ∧ g.message = .report r ∧
      ∃ f,fs[g.passed]? = some f ∧ f.name = "reporter" := by
  cases d with
  | busy m' g' =>
    simp only [handing?] at h
    split at h
    · rename_i f r' hfate hf hmsg
      split at h
      · rename_i hn
        cases h
        exact ⟨rfl,hfate,hmsg,f,hf,hn⟩
      · cases h
    · cases h
  | _ => cases h

theorem not_report_of_handing? {f : Filter σ} (h : (busy m g).handing? fs = none)
    (hg : g.fate = none) (hf : fs[g.passed]? = some f) (hn : f.name = "reporter") :
    ∀ r,g.message ≠ .report r := by
  intro r hr
  simp [handing?,hg,hf,hr,hn] at h

end Desk

/-- A worker, which may be in the middle of a report. -/
inductive Clerk
  | desk (d : Desk)
  | answered (m : Message) (g : Flight) (r : Report) (a : Answer)
  /-- The answer has been counted too, and does not show in the health yet. -/
  | counted (m : Message) (g : Flight) (a : Answer)
  deriving DecidableEq, Repr

namespace Clerk

/-- What the worker is at for those who do not look closer. -/
def seat : Clerk → Desk
  | .desk d => d
  | .answered m g _ _ => .busy m g
  | .counted m g _ => .busy m g

variable [ContainerRuntime δ] [Backend ρ] {s : ChainSettings} {d : Desk}
  {h : Hall (Meter δ ρ)}

def step (s : ChainSettings) : Clerk → Hall (Meter δ ρ) → Clerk × Hall (Meter δ ρ)
  | .desk d,h =>
    match d.handing? (Chain.standard s : List (Filter (Meter δ ρ))) with
    | some (m,g,r) =>
      (.answered m g r (Backend.deliver r h.state.backend).1,
        { h with state := (h.state.deliver r).2 })
    | none => (.desk (d.step (Chain.standard s) h).1,(d.step (Chain.standard s) h).2)
  | .answered m g r a,h => (.counted m g a,{ h with state := Chain.counts s r a h.state })
  | .counted m g a,h =>
    (.desk (.busy m (g.land (.error (.ofDelivery a)))),{ h with state := Chain.shows s a h.state })

theorem step_handing {m : Message} {g : Flight} {r : Report}
    (hd : d.handing? (Chain.standard s : List (Filter (Meter δ ρ))) = some (m,g,r)) :
    step s (.desk d) h =
      (.answered m g r (Backend.deliver r h.state.backend).1,
        { h with state := (h.state.deliver r).2 }) := by
  simp only [step,hd]

theorem step_desk (hd : d.handing? (Chain.standard s : List (Filter (Meter δ ρ))) = none) :
    step s (.desk d) h = (.desk (d.step (Chain.standard s) h).1,(d.step (Chain.standard s) h).2) := by
  simp only [step,hd]

/-- The three parts of a report come to the step of a worker that goes filter by filter. -/
theorem alone_handing {m : Message} {g : Flight} {r : Report}
    (hd : d.handing? (Chain.standard s : List (Filter (Meter δ ρ))) = some (m,g,r)) :
    Team.alone (step s) 3 (.desk d) h =
      (.desk (d.step (Chain.standard s) h).1,(d.step (Chain.standard s) h).2) := by
  obtain ⟨rfl,hg,hmsg,f,hf,hn⟩ := Desk.handing?_cases hd
  obtain rfl : f = Chain.reporter s :=
    (Chain.standard_stirring s (List.mem_of_getElem? hf)).resolve_right fun h => h.1 hn
  have hstep : g.step (Chain.standard s) h.state =
      (g.land ((Chain.reporter s).pass (.report r) h.state).1,
        ((Chain.reporter s).pass (.report r) h.state).2) := by
    rw [Flight.step_pass hg hf,hmsg]
  rw [Team.alone_step (step_handing hd)]
  simp only [Desk.step,hg,hstep,Chain.pass_report]
  rfl

theorem exists_alone_desk (s : ChainSettings) (d : Desk) (h : Hall (Meter δ ρ)) :
    ∃ k,Team.alone (step s) k (.desk d) h =
      (.desk (d.step (Chain.standard s) h).1,(d.step (Chain.standard s) h).2) := by
  cases hd : d.handing? (Chain.standard s : List (Filter (Meter δ ρ))) with
  | none => exact ⟨1,Team.alone_step (step_desk hd) 0⟩
  | some x => exact ⟨3,alone_handing hd⟩

end Clerk

abbrev Office (δ ρ : Type) := Team Clerk (Hall (Meter δ ρ))

namespace Office

def floor (t : Office δ ρ) : Floor (Meter δ ρ) := ⟨t.state,t.members.map Clerk.seat⟩

def ofFloor (t : Floor (Meter δ ρ)) : Office δ ρ := ⟨t.state,t.members.map .desk⟩

def ofSettings (d : DispatcherSettings) (m : Meter δ ρ) : Office δ ρ :=
  ofFloor (Floor.ofSettings d m)

theorem floor_ofFloor (t : Floor (Meter δ ρ)) : (ofFloor t).floor = t := by
  have hm : (t.members.map Clerk.desk).map Clerk.seat = t.members := by
    rw [List.map_map]
    exact List.map_id _
  exact congrArg (Team.mk t.state) hm

variable [ContainerRuntime δ] [Backend ρ] {s : ChainSettings}

/-- The workers are all that goes on in smaller parts. -/
def take (s : ChainSettings) (x : Floor.Move (Meter δ ρ)) (t : Office δ ρ) : Office δ ρ :=
  match x with
  | .work i => t.step (Clerk.step s) i
  | x => { t with state := (x.take (Chain.standard s) t.floor).state }

def run (s : ChainSettings) (xs : List (Floor.Move (Meter δ ρ))) (t : Office δ ρ) : Office δ ρ :=
  xs.foldl (fun t x => take s x t) t

theorem run_append (xs ys : List (Floor.Move (Meter δ ρ))) (t : Office δ ρ) :
    run s (xs++ys) t = run s ys (run s xs t) := List.foldl_append

theorem length_take (x : Floor.Move (Meter δ ρ)) (t : Office δ ρ) :
    (take s x t).members.length = t.members.length := by
  cases x with
  | work i => exact Team.length_step _ i t
  | _ => rfl

theorem length_run (xs : List (Floor.Move (Meter δ ρ))) (t : Office δ ρ) :
    (run s xs t).members.length = t.members.length := by
  induction xs generalizing t with
  | nil => rfl
  | cons x xs ih => exact (ih (take s x t)).trans (length_take x t)

theorem run_alone {c : Clerk} {i : Nat} {t : Office δ ρ} (hi : t.members[i]? = some c) (k : Nat) :
    run s (.replicate k (.work i)) t =
      ⟨(Team.alone (Clerk.step s) k c t.state).2,
        t.members.set i (Team.alone (Clerk.step s) k c t.state).1⟩ :=
  Team.foldl_replicate (fun _ => rfl) hi k

theorem exists_run_take (x : Floor.Move (Meter δ ρ)) (t : Floor (Meter δ ρ)) :
    ∃ ys,run s ys (ofFloor t) = ofFloor (x.take (Chain.standard s) t) := by
  cases x with
  | work i =>
    cases hi : t.members[i]? with
    | none =>
      refine ⟨[],?_⟩
      show ofFloor t = ofFloor (t.step _ i)
      rw [Team.step_none hi]
    | some d =>
      obtain ⟨k,hk⟩ := Clerk.exists_alone_desk s d t.state
      have hm : (ofFloor t).members[i]? = some (.desk d) := by
        rw [ofFloor,List.getElem?_map,hi]
        rfl
      have hs : Floor.Move.take (Chain.standard s) (.work i) t =
          ⟨(d.step (Chain.standard s) t.state).2,
            t.members.set i (d.step (Chain.standard s) t.state).1⟩ := Team.step_some hi
      refine ⟨.replicate k (.work i),?_⟩
      rw [run_alone hm k,hs]
      refine (congrArg (fun r => Team.mk r.2 ((ofFloor t).members.set i r.1)) hk).trans ?_
      exact congrArg (Team.mk _) (List.map_set ..).symm
  | join =>
    refine ⟨[.join],?_⟩
    show Team.mk (Floor.Move.take (Chain.standard s) .join (ofFloor t).floor).state _ = _
    rw [floor_ofFloor]
    rfl
  | lend => exact ⟨[.lend],rfl⟩
  | dispatch m => exact ⟨[.dispatch m],rfl⟩
  | drop => exact ⟨[.drop],rfl⟩
  | shutdown => exact ⟨[.shutdown],rfl⟩
  | around f => exact ⟨[.around f],rfl⟩

/-- Whatever workers come to filter by filter, these can come to as well. -/
theorem exists_run_floor (xs : List (Floor.Move (Meter δ ρ))) (t : Floor (Meter δ ρ)) :
    ∃ ys,run s ys (ofFloor t) = ofFloor (Floor.run (Chain.standard s) xs t) := by
  induction xs generalizing t with
  | nil => exact ⟨[],rfl⟩
  | cons x xs ih =>
    obtain ⟨ys,hy⟩ := exists_run_take (s := s) x t
    obtain ⟨zs,hz⟩ := ih (x.take (Chain.standard s) t)
    exact ⟨ys++zs,by rw [run_append,hy,hz,Floor.run_cons]⟩

end Office

end HostMeter
