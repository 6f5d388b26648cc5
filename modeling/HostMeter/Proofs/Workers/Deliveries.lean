import HostMeter.Fleet
import HostMeter.Inbox
import HostMeter.Proofs.Chain.Run
import HostMeter.Proofs.Workers.Landings
set_option autoImplicit false

/-! Deliveries told four times over: by the counters and the timings of the reporter, by how the reporter
fares, and by what the dispatcher makes of the messages. The counts come to the same whatever the receiver
answers and however the workers take turns. How the reporter fares goes by the answer that was shown last,
which is the receiver's last as long as one report is on its way at a time. -/

namespace HostMeter

variable {δ ρ : Type}

def Floor.Move.Aloof : Floor.Move (Meter δ (Answering ρ)) → Prop
  | .around f => ∀ m,(f m).docket = m.docket
  | _ => True

theorem Floor.Move.Aloof.keeps (fs : List (Filter (Meter δ (Answering ρ))))
    {x : Floor.Move (Meter δ (Answering ρ))} (hx : x.Aloof) (hw : ∀ i,x ≠ .work i)
    (t : Floor (Meter δ (Answering ρ))) :
    (x.take fs t).state.state.docket = t.state.state.docket ∧
      (x.take fs t).state.dispatcher.processed = t.state.dispatcher.processed ∧
      (x.take fs t).state.dispatcher.failed = t.state.dispatcher.failed := by
  cases x with
  | work i => exact absurd rfl (hw i)
  | dispatch m =>
    simp only [Floor.Move.take,Hall.dispatch]
    split <;> exact ⟨rfl,rfl,rfl⟩
  | lend =>
    have hd := t.state.lend_dispatcher
    exact ⟨congrArg Meter.docket t.state.lend_state,congrArg Dispatcher.processed hd,
      congrArg Dispatcher.failed hd⟩
  | shutdown =>
    have hd := t.state.shutdown_dispatcher
    exact ⟨congrArg Meter.docket t.state.shutdown_state,congrArg Dispatcher.processed hd,
      congrArg Dispatcher.failed hd⟩
  | join =>
    have hd := t.state.join_dispatcher t.members
    refine ⟨?_,congrArg Dispatcher.processed hd,congrArg Dispatcher.failed hd⟩
    simp only [Floor.Move.take,Hall.join]
    split
    · split <;> rfl
    · rfl
  | drop => exact ⟨rfl,rfl,rfl⟩
  | around f => exact ⟨hx _,rfl,rfl⟩

namespace Office

def held (t : Office δ ρ) : List Answer := t.members.filterMap Clerk.held

def uncounted (t : Office δ ρ) : List Answer := t.members.filterMap Clerk.uncounted

/-- All books agree, but for what workers have yet to write. -/
structure Kept (before : Docket) (as : List Answer) (ls : List Landing)
    (t : Office δ (Answering ρ)) : Prop where
  agree : ∀ l ∈ ls,l.Agrees
  answers : t.state.state.docket.answers = before.answers++as
  held : as.Perm (Landing.answered ls++t.held)
  sent : t.state.state.docket.sent+t.uncounted.countP Answer.isAccepted =
    before.sent+as.countP Answer.isAccepted
  timed : t.state.state.docket.timed+t.uncounted.countP Answer.isAccepted =
    before.timed+as.countP Answer.isAccepted
  refused : t.state.state.docket.failed+t.uncounted.countP Answer.isRefused =
    before.failed+as.countP Answer.isRefused
  processed : t.state.dispatcher.processed+t.members.countP (·.owes Passage.isProcessed) =
    ls.countP (·.fate.isProcessed)
  failed : t.state.dispatcher.failed+t.members.countP (·.owes Passage.isFailed) =
    ls.countP (·.fate.isFailed)
  errors : t.state.state.docket.errors+t.members.countP Clerk.blames =
    before.errors+ls.countP (·.fate.isRefused)
  shown : t.state.state.docket.shown =
    ((Landing.answered ls).filterMap Answer.shown?).getLast?.or before.shown

namespace Kept

variable {before : Docket} {as as' : List Answer} {ls ls' : List Landing}
  {t : Office δ (Answering ρ)}

theorem of_same (ht : Kept before as ls t) {h' : Hall (Meter δ (Answering ρ))}
    (hs : h'.state.docket = t.state.state.docket)
    (hp : h'.dispatcher.processed = t.state.dispatcher.processed)
    (hf : h'.dispatcher.failed = t.state.dispatcher.failed) : Kept before as ls ⟨h',t.members⟩ where
  agree := ht.agree
  answers := (congrArg Docket.answers hs).trans ht.answers
  held := ht.held
  sent := by
    rw [hs]
    exact ht.sent
  timed := by
    rw [hs]
    exact ht.timed
  refused := by
    rw [hs]
    exact ht.refused
  processed := by
    rw [hp]
    exact ht.processed
  failed := by
    rw [hf]
    exact ht.failed
  errors := by
    rw [hs]
    exact ht.errors
  shown := (congrArg Docket.shown hs).trans ht.shown

/-- What is in hand behind a step, with what has landed in it, was in hand or is answered in it. -/
theorem held_work {i : Nat} {c c' : Clerk} {h' : Hall (Meter δ (Answering ρ))}
    (hi : t.members[i]? = some c) (g : Clerk.Adds t.state c c' h' as' ls') :
    (Office.held ⟨h',t.members.set i c'⟩++Landing.answered ls').Perm (t.held++as') := by
  refine List.perm_iff_count.mpr fun a => ?_
  have hset := Team.countP_filterMap_set_add Clerk.held (· == a) hi c'
  have hg := g.held.count_eq a
  simp only [Office.held,List.count,List.countP_append] at hg ⊢
  omega

theorem work (ht : Kept before as ls t) {i : Nat} {c c' : Clerk} {h' : Hall (Meter δ (Answering ρ))}
    (hi : t.members[i]? = some c) (g : Clerk.Adds t.state c c' h' as' ls') :
    Kept before (as++as') (ls++ls') ⟨h',t.members.set i c'⟩ where
  agree l hl := (List.mem_append.mp hl).elim (ht.agree l) (g.agree l)
  answers := by
    rw [g.answers,ht.answers,List.append_assoc]
  held := by
    have hstep := ((held_work hi g).symm.trans List.perm_append_comm).append_left (Landing.answered ls)
    rw [← List.append_assoc,← List.append_assoc] at hstep
    rw [Landing.answered_append]
    exact (ht.held.append_right as').trans hstep
  sent := by
    rw [List.countP_append,← Nat.add_assoc]
    exact Team.add_countP_filterMap_set hi c' ht.sent g.sent
  timed := by
    rw [List.countP_append,← Nat.add_assoc]
    exact Team.add_countP_filterMap_set hi c' ht.timed g.timed
  refused := by
    rw [List.countP_append,← Nat.add_assoc]
    exact Team.add_countP_filterMap_set hi c' ht.refused g.refused
  processed := by
    rw [List.countP_append]
    exact Team.add_countP_set hi c' ht.processed g.processed
  failed := by
    rw [List.countP_append]
    exact Team.add_countP_set hi c' ht.failed g.failed
  errors := by
    rw [List.countP_append,← Nat.add_assoc]
    exact Team.add_countP_set hi c' ht.errors g.errors
  shown := by
    rw [g.shown,ht.shown,Landing.answered_append,List.filterMap_append,List.getLast?_append,
      Option.or_assoc]

/-- The answers have landed in the order in which they were given, but for what is in hand. -/
def InOrder (as : List Answer) (ls : List Landing) (t : Office δ (Answering ρ)) : Prop :=
  as = Landing.answered ls++t.held

theorem eq_of_perm {α : Type} {xs ys : List α} (h : xs.Perm ys) (hy : ys.length ≤ 1) : xs = ys := by
  match ys with
  | [] => exact h.eq_nil
  | [y] => exact List.perm_singleton.mp h
  | _ :: _ :: _ => simp at hy

/-- With one answer in hand at most, none can land before another that was given first. -/
theorem inOrder_work {i : Nat} {c c' : Clerk} {h' : Hall (Meter δ (Answering ρ))}
    (hi : t.members[i]? = some c) (g : Clerk.Adds t.state c c' h' as' ls') (hb : t.held.length ≤ 1)
    (hb' : (Office.held ⟨h',t.members.set i c'⟩).length ≤ 1) (ho : InOrder as ls t) :
    InOrder (as++as') (ls++ls') ⟨h',t.members.set i c'⟩ := by
  have hstep := held_work hi g
  unfold InOrder at ho ⊢
  rw [ho,Landing.answered_append]
  rcases g.apart with rfl | rfl
  · -- what has landed was in hand, and it was all there was
    rw [List.append_nil] at hstep ⊢
    rw [List.append_assoc,eq_of_perm (List.perm_append_comm.trans hstep) hb]
  · have hnil : Landing.answered [] = [] := rfl
    rw [hnil,List.append_nil] at hstep
    rw [List.append_assoc,← eq_of_perm hstep.symm hb',hnil,List.append_nil]

theorem shown_of_landing {l : Landing} {a : Answer} {v : Status × Option String}
    (ht : Kept before as (ls++[l]) t) (ha : l.answer = some a) (hv : a.shown? = some v) :
    t.state.state.health.shown Health.reporter = some v := by
  have hl : (Landing.answered [l]).filterMap Answer.shown? = [v] := by
    simp [Landing.answered,ha,hv]
  have hs := ht.shown
  rw [Landing.answered_append,List.filterMap_append,hl,List.getLast?_concat,Option.some_or] at hs
  exact hs

end Kept

variable [ContainerRuntime δ] [Backend ρ] {s : ChainSettings} {before : Docket} {as : List Answer}
  {ls : List Landing} {t : Office δ (Answering ρ)}

def landing? (s : ChainSettings) (t : Office δ (Answering ρ)) :
    Floor.Move (Meter δ (Answering ρ)) → Option Landing
  | .work i => t.members[i]?.bind (·.landing? s t.state)
  | _ => none

def landings (s : ChainSettings) :
    List (Floor.Move (Meter δ (Answering ρ))) → Office δ (Answering ρ) → List Landing
  | [],_ => []
  | x :: xs,t => (landing? s t x).toList++landings s xs (take s x t)

/-- At no time in the run do two workers have answers in hand. -/
def Apart (s : ChainSettings) (xs : List (Floor.Move (Meter δ (Answering ρ))))
    (t : Office δ (Answering ρ)) : Prop := ∀ k,(run s (xs.take k) t).held.length ≤ 1

theorem apart_of_one (xs : List (Floor.Move (Meter δ (Answering ρ)))) (ht : t.members.length ≤ 1) :
    Apart s xs t := by
  intro k
  have hl : (run s (xs.take k) t).members.length = t.members.length := length_run _ t
  exact Nat.le_trans (List.length_filterMap_le ..) (hl ▸ ht)

/-- Nothing lands out of order as long as answers are not in hand together. -/
theorem Kept.step (hs : s.reportHealth = true) (ht : Kept before as ls t)
    {x : Floor.Move (Meter δ (Answering ρ))} (hx : x.Aloof) :
    ∃ as',Kept before (as++as') (ls++(landing? s t x).toList) (take s x t) ∧
      (t.held.length ≤ 1 → (take s x t).held.length ≤ 1 → InOrder as ls t →
        InOrder (as++as') (ls++(landing? s t x).toList) (take s x t)) := by
  have hsame : ∀ t' : Office δ (Answering ρ),Kept before as ls t' → t'.held = t.held →
      landing? s t x = none →
      ∃ as',Kept before (as++as') (ls++(landing? s t x).toList) t' ∧ (t.held.length ≤ 1 →
        t'.held.length ≤ 1 → InOrder as ls t →
          InOrder (as++as') (ls++(landing? s t x).toList) t') := by
    intro t' hk hh hl
    simp only [hl,Option.toList_none,List.append_nil]
    refine ⟨[],by rwa [List.append_nil],fun _ _ ho => ?_⟩
    rw [List.append_nil,InOrder,hh]
    exact ho
  by_cases hw : ∃ i,x = .work i
  · obtain ⟨i,rfl⟩ := hw
    cases hi : t.members[i]? with
    | none =>
      have htake : take s (.work i) t = t := Team.step_none hi
      rw [htake]
      exact hsame t ht rfl (by simp only [landing?,hi,Option.bind_none])
    | some c =>
      have htake : take s (.work i) t = ⟨(c.step s t.state).2,t.members.set i (c.step s t.state).1⟩ :=
        Team.step_some hi
      have hl : landing? s t (.work i) = c.landing? s t.state := by
        simp only [landing?,hi,Option.bind_some]
      obtain ⟨as',g⟩ := c.adds_step hs t.state
      rw [htake,hl]
      exact ⟨as',ht.work hi g,inOrder_work hi g⟩
  · have hw : ∀ i,x ≠ .work i := fun i h => hw ⟨i,h⟩
    have htake : take s x t = ⟨(x.take (Chain.standard s) t.floor).state,t.members⟩ := by
      cases x with
      | work i => exact absurd rfl (hw i)
      | _ => rfl
    obtain ⟨hd,hp,hf⟩ := Floor.Move.Aloof.keeps (Chain.standard s) hx hw t.floor
    rw [htake]
    refine hsame _ (ht.of_same hd hp hf) rfl ?_
    cases x with
    | work i => exact absurd rfl (hw i)
    | _ => rfl

theorem run_kept (hs : s.reportHealth = true) {xs : List (Floor.Move (Meter δ (Answering ρ)))}
    (hx : ∀ x ∈ xs,x.Aloof) (ht : Kept before as ls t) :
    ∃ as',Kept before (as++as') (ls++landings s xs t) (run s xs t) ∧ (Apart s xs t →
      Kept.InOrder as ls t → Kept.InOrder (as++as') (ls++landings s xs t) (run s xs t)) := by
  induction xs generalizing as ls t with
  | nil =>
    refine ⟨[],?_,?_⟩
    · rwa [landings,List.append_nil,List.append_nil]
    · intro _ ho
      rwa [landings,List.append_nil,List.append_nil]
  | cons x xs ih =>
    obtain ⟨bs,hk,ho⟩ := ht.step hs (hx x List.mem_cons_self)
    obtain ⟨cs,hks,hos⟩ := ih (fun y hy => hx y (List.mem_cons_of_mem _ hy)) hk
    rw [List.append_assoc,List.append_assoc] at hks hos
    refine ⟨bs++cs,hks,fun ha hin => hos (fun k => ha (k+1)) ?_⟩
    exact ho (ha 0) (ha 1) hin

section

omit [ContainerRuntime δ] [Backend ρ]

variable (d : DispatcherSettings) (m : Meter δ (Answering ρ))

theorem free_ofSettings : ∀ c ∈ (ofSettings d m).members,c = .desk .free := by
  simp [ofSettings,ofFloor,Floor.ofSettings]

theorem filterMap_ofSettings {α : Type} {f : Clerk → Option α} (hf : f (.desk .free) = none) :
    (ofSettings d m).members.filterMap f = [] := by
  refine List.filterMap_eq_nil_iff.mpr fun c hc => ?_
  rw [free_ofSettings d m c hc,hf]

theorem countP_ofSettings {q : Clerk → Bool} (hq : q (.desk .free) = false) :
    (ofSettings d m).members.countP q = 0 := by
  refine List.countP_eq_zero.mpr fun c hc => ?_
  rw [free_ofSettings d m c hc,hq]
  exact Bool.false_ne_true

theorem held_ofSettings : (ofSettings d m).held = [] := filterMap_ofSettings d m rfl

theorem uncounted_ofSettings : (ofSettings d m).uncounted = [] := filterMap_ofSettings d m rfl

theorem kept_ofSettings : Kept m.docket [] [] (ofSettings d m) := by
  refine ⟨by simp,(List.append_nil _).symm,?_,?_,?_,?_,?_,?_,?_,rfl⟩
  · rw [held_ofSettings]
    exact .nil
  · rw [uncounted_ofSettings]
    rfl
  · rw [uncounted_ofSettings]
    rfl
  · rw [uncounted_ofSettings]
    rfl
  · rw [countP_ofSettings d m rfl]
    rfl
  · rw [countP_ofSettings d m rfl]
    rfl
  · rw [countP_ofSettings d m rfl]
    rfl

end

theorem shown_at_landing (hs : s.reportHealth = true) {x : Floor.Move (Meter δ (Answering ρ))}
    {ys : List (Floor.Move (Meter δ (Answering ρ)))} (hx : ∀ y ∈ ys++[x],y.Aloof)
    (ht : Kept before as ls t) {l : Landing} {a : Answer} {v : Status × Option String}
    (hl : landing? s (run s ys t) x = some l) (ha : l.answer = some a) (hv : a.shown? = some v) :
    (run s (ys++[x]) t).state.state.health.shown Health.reporter = some v := by
  obtain ⟨bs,hk,-⟩ := run_kept hs (fun y hy => hx y (List.mem_append_left _ hy)) ht
  obtain ⟨cs,hk',-⟩ := hk.step hs (hx x (List.mem_append_right _ List.mem_cons_self))
  rw [hl] at hk'
  rw [run_append]
  exact hk'.shown_of_landing ha hv

/-- Whatever the receiver answers and however the workers take turns, also in the middle of a report:
every answer is in the hands of a worker or has landed with its message, which counts as processed when
its report was accepted and as failed, with an error against the reporter, when it was refused, and no
other message is taken for refused. But for what is in hand, accepted reports are counted and timed and
refused ones are counted. As a message lands its answer shows, so that the reporter is always as the last
answer to land says, healthy or degraded and never worse; with one worker, or as long as no two have answers
in hand, this is the receiver's last. -/
theorem deliveries_accounted (hs : s.reportHealth = true) (d : DispatcherSettings)
    (m : Meter δ (Answering ρ)) {xs : List (Floor.Move (Meter δ (Answering ρ)))}
    (hx : ∀ x ∈ xs,x.Aloof) :
    let ls := landings s xs (ofSettings d m)
    let t := run s xs (ofSettings d m)
    let m' := t.state.state
    let as := m'.backend.answers.drop m.backend.answers.length
    m'.backend.answers = m.backend.answers++as ∧
      as.Perm (Landing.answered ls++t.held) ∧ (∀ l ∈ ls,l.Agrees) ∧
      m'.metrics.reportsSent+t.uncounted.countP Answer.isAccepted =
        m.metrics.reportsSent+as.countP Answer.isAccepted ∧
      m'.metrics.latencies.length+t.uncounted.countP Answer.isAccepted =
        m.metrics.latencies.length+as.countP Answer.isAccepted ∧
      m'.metrics.reportsFailed+t.uncounted.countP Answer.isRefused =
        m.metrics.reportsFailed+as.countP Answer.isRefused ∧
      t.state.dispatcher.processed+t.members.countP (·.owes Passage.isProcessed) =
        ls.countP (·.fate.isProcessed) ∧
      t.state.dispatcher.failed+t.members.countP (·.owes Passage.isFailed) =
        ls.countP (·.fate.isFailed) ∧
      m'.metrics.errorsOf "reporter"+t.members.countP Clerk.blames =
        m.metrics.errorsOf "reporter"+(Landing.answered ls).countP Answer.isRefused ∧
      m'.health.shown Health.reporter =
        ((Landing.answered ls).filterMap Answer.shown?).getLast?.or
          (m.health.shown Health.reporter) ∧
      (∀ ys x zs,xs = ys++x :: zs → ∀ l a v,landing? s (run s ys (ofSettings d m)) x = some l →
        l.answer = some a → a.shown? = some v →
        (run s (ys++[x]) (ofSettings d m)).state.state.health.shown Health.reporter = some v) ∧
      (d.workers ≤ 1 ∨ Apart s xs (ofSettings d m) → as = Landing.answered ls++t.held ∧
        (t.held = [] → m'.health.shown Health.reporter =
          (as.filterMap Answer.shown?).getLast?.or (m.health.shown Health.reporter))) ∧
      ∀ reason,m'.health.shown Health.reporter = some (.unhealthy,reason) →
        m.health.shown Health.reporter = some (.unhealthy,reason) := by
  intro ls t m' as
  obtain ⟨as',hk,ho⟩ := run_kept hs hx (kept_ofSettings d m)
  have hanswers : m'.backend.answers = m.backend.answers++as' := hk.answers
  obtain rfl : as' = as := by
    show as' = m'.backend.answers.drop m.backend.answers.length
    rw [hanswers,List.drop_left]
  have herrors := hk.errors
  rw [Landing.countP_isRefused hk.agree] at herrors
  have hshown : m'.health.shown Health.reporter =
      ((Landing.answered ls).filterMap Answer.shown?).getLast?.or (m.health.shown Health.reporter) :=
    hk.shown
  refine ⟨hanswers,hk.held,hk.agree,hk.sent,hk.timed,hk.refused,hk.processed,hk.failed,herrors,hshown,
    ?_,?_,?_⟩
  · rintro ys x zs rfl l a v hl ha hv
    refine shown_at_landing hs (fun y hy => hx y ?_) (kept_ofSettings d m) hl ha hv
    rw [List.append_cons]
    exact List.mem_append_left _ hy
  · intro hone
    have hapart : Apart s xs (ofSettings d m) := by
      refine hone.elim (fun hd => apart_of_one xs ?_) id
      simp [ofSettings,ofFloor,Floor.ofSettings,hd]
    have hin : as = Landing.answered ls++t.held := ho hapart (held_ofSettings d m).symm
    refine ⟨hin,fun hnil => ?_⟩
    rw [hnil,List.append_nil] at hin
    rw [hin]
    exact hshown
  · intro reason hu
    rw [hu] at hshown
    cases hl : ((Landing.answered ls).filterMap Answer.shown?).getLast? with
    | none =>
      rw [hl] at hshown
      exact hshown.symm
    | some x =>
      -- no answer shows a reporter that is unhealthy
      rw [hl] at hshown
      obtain rfl : x = (.unhealthy,reason) := (Option.some.inj hshown).symm
      obtain ⟨a,-,ha⟩ := List.mem_filterMap.mp (List.mem_of_getLast? hl)
      cases a <;> cases ha

def answering : Meter Fleet (Answering Inbox) where
  registry := { policy := .ofParts "track" "" }
  collector := .ofSettings 100 64
  runtime := .ofContainers [Watched.web]
  backend := { inner := {} }

def souring : List (Floor.Move (Meter Fleet (Answering Inbox))) :=
  [.lend,.dispatch (.discovery Watched.web)]++.replicate 14 (.work 0)++
    [.around fun m => { m with backend := { m.backend with inner := { failing := true } } },
      .dispatch (.change (.ofEvent Watched.webDeleted))]++.replicate 14 (.work 0)

def soured : Status × Option String :=
  (.degraded,some ("last report failed: "++DeliveryError.message (.unavailable Inbox.failure)))

theorem deliveries_accounted_souring :
    let t := run Watched.chain souring (ofSettings { workers := 1 } answering)
    t.state.dispatcher.processed = 1 ∧ t.state.dispatcher.failed = 1 ∧
      t.state.state.metrics.reportsSent = 1 ∧ t.state.state.metrics.latencies.length = 1 ∧
      t.state.state.metrics.reportsFailed = 1 ∧
      t.state.state.metrics.errorsOf "reporter" = 1 ∧
      t.state.state.health.shown Health.reporter = some soured := by
  have hx : ∀ x ∈ souring,x.Aloof := by
    intro x hm
    simp only [souring,List.mem_append,List.mem_cons,List.mem_replicate,List.not_mem_nil,
      or_false] at hm
    rcases hm with (((rfl | rfl) | ⟨-,rfl⟩) | rfl | rfl) | ⟨-,rfl⟩ <;> first | trivial | exact fun _ => rfl
  obtain ⟨-,-,-,hsent,htimed,hrefused,-,-,herrors,-,-,hlast,-⟩ :=
    deliveries_accounted (s := Watched.chain) rfl { workers := 1 } answering hx
  have hfree : (run Watched.chain souring (ofSettings { workers := 1 } answering)).members =
      [.desk .free] := by decide
  have hheld : (run Watched.chain souring (ofSettings { workers := 1 } answering)).held = [] := by
    rw [held,hfree]
    rfl
  have hcount : (run Watched.chain souring (ofSettings { workers := 1 } answering)).uncounted = [] := by
    rw [uncounted,hfree]
    rfl
  have ha : (run Watched.chain souring (ofSettings { workers := 1 } answering)).state.state.backend.answers =
      [.done (({} : Inbox).accept (.ofChange "meter" (.ofEvent (.existed Watched.web 0)) 0)).1,
        .failed (.unavailable Inbox.failure)] := by
    decide
  obtain ⟨has,hshown⟩ := hlast (.inl (Nat.le_refl 1))
  rw [hheld,List.append_nil] at has
  rw [← has,hfree] at herrors
  have hshown := hshown hheld
  rw [ha] at hsent htimed hrefused herrors hshown
  rw [hcount] at hsent htimed hrefused
  exact ⟨by decide,by decide,hsent,htimed,hrefused,herrors,hshown⟩

def overtaking : List (Floor.Move (Meter Fleet (Answering Inbox))) :=
  [.lend,.dispatch (.report (.ofChange "meter" (.ofEvent Watched.webDeleted) 0)),
    .dispatch (.report (.ofChange "meter" (.ofEvent Watched.webDeleted) 0))]++
    .replicate 9 (.work 0)++
    [.around fun m => { m with backend := { m.backend with inner := { failing := true } } }]++
    .replicate 11 (.work 1)++.replicate 2 (.work 0)

example :
    let t := run Watched.chain overtaking (ofSettings { workers := 2 } answering)
    t.state.state.backend.answers.map Answer.isRefused = [false,true] ∧ t.held = [] ∧
      t.state.state.health.shown Health.reporter = some (.healthy,none) := by
  decide

end Office

end HostMeter
