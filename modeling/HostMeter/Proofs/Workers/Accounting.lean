import HostMeter.Proofs.Chain.Counters
import HostMeter.Proofs.Chain.Run
import HostMeter.Proofs.Workers.Drain
set_option autoImplicit false

/-! Every message that a dispatcher accepts is sent through the pipeline once, whoever goes on when, and
when the shutdown returns, its counts and the counters tell of all of them. -/

namespace HostMeter

namespace History

def accepted (es : History) : List Message :=
  es.filterMap fun
    | .accepted m => some m
    | _ => none

def drawn (es : History) : List Message :=
  es.filterMap fun
    | .drawn m => some m
    | _ => none

def sent (es : History) : List Message :=
  es.filterMap fun
    | .sent m => some m
    | _ => none

def landed (es : History) : List (Message × Passage) :=
  es.filterMap fun
    | .landed m p => some (m,p)
    | _ => none

variable (es es' : History)

theorem accepted_append : accepted (es++es') = accepted es++accepted es' := List.filterMap_append

theorem drawn_append : drawn (es++es') = drawn es++drawn es' := List.filterMap_append

theorem sent_append : sent (es++es') = sent es++sent es' := List.filterMap_append

theorem landed_append : landed (es++es') = landed es++landed es' := List.filterMap_append

end History

namespace Desk

def awaited : Desk → Option Message
  | .drawn m => some m
  | _ => none

def carried : Desk → Option Message
  | .busy m _ => some m
  | _ => none

theorem filterMap_awaited (d : Desk) : [d].filterMap awaited = d.awaited.toList := by
  cases d <;> rfl

def isFailing : Desk → Bool
  | .failing .. => true
  | _ => false

theorem finish_settled (m : Message) (p : Passage) (d : Dispatcher) :
    (finish m p d).1.awaited = none ∧ (finish m p d).1.carried = none ∧
      (finish m p d).2.queue = d.queue := by
  cases p <;> exact ⟨rfl,rfl,rfl⟩

namespace Goes

variable {σ : Type} [Journal σ] [Metered σ] {fs : List (Filter σ)} {h h' : Hall σ} {d d' : Desk}
  {e : Option Entry}

theorem accepted_eq (g : Goes fs h d d' h' e) : History.accepted e.toList = [] := by
  cases g <;> rfl

theorem queue_eq (g : Goes fs h d d' h' e) :
    History.drawn e.toList++h'.dispatcher.queue = h.dispatcher.queue := by
  cases g with
  | draws hq => exact hq.symm
  | lands m hf => exact (finish_settled m _ _).2.2
  | _ => rfl

theorem awaited_eq (g : Goes fs h d d' h' e) :
    d.awaited.toList++History.drawn e.toList = History.sent e.toList++d'.awaited.toList := by
  cases g with
  | lands m hf =>
    rw [(finish_settled m _ _).1]
    rfl
  | _ => rfl

theorem carried_eq (g : Goes fs h d d' h' e) :
    d.carried.toList++History.sent e.toList =
      (History.landed e.toList).map (·.1)++d'.carried.toList := by
  cases g with
  | lands m hf =>
    rw [(finish_settled m _ _).2.1]
    rfl
  | _ => rfl

theorem counted (g : Goes fs h d d' h' e) :
    h'.dispatcher.processed+h'.dispatcher.failed+(History.landed e.toList).countP (·.2 = .crashed) =
      h.dispatcher.processed+h.dispatcher.failed+(History.landed e.toList).length := by
  cases g with
  | @lands m g p hf =>
    cases p <;> simp [finish,History.landed] <;> omega
  | _ => rfl

theorem eq_crashed (g : Goes fs h d d' h' e) (hd : d' = .crashed) :
    d = .crashed ∨ ∃ m,e = some (.landed m .crashed) := by
  cases g with
  | @lands m g p hf =>
    cases p with
    | crashed => exact .inr ⟨m,rfl⟩
    | _ => cases hd
  | crashed => exact .inl rfl
  | _ => cases hd

end Goes

end Desk

namespace Floor

variable {σ : Type} [Journal σ] [Metered σ] {fs : List (Filter σ)} {t : Floor σ} {es : History}

/-- Every accepted message is queued, on one desk, or has landed. -/
structure Balanced (es : History) (t : Floor σ) : Prop where
  queued : es.accepted = es.drawn++t.state.dispatcher.queue
  awaited : ∀ p,es.drawn.countP p =
    es.sent.countP p+(t.members.filterMap Desk.awaited).countP p
  carried : ∀ p,es.sent.countP p =
    (es.landed.map (·.1)).countP p+(t.members.filterMap Desk.carried).countP p
  /-- A worker by itself sends in the order of the queue. -/
  ordered : t.members.length ≤ 1 → es.drawn = es.sent++t.members.filterMap Desk.awaited
  counted : t.state.dispatcher.processed+t.state.dispatcher.failed+
    es.landed.countP (·.2 = .crashed) = es.landed.length
  crashed : .crashed ∈ t.members → ∃ m,(m,.crashed) ∈ es.landed

namespace Balanced

theorem work (ht : Balanced es t) {i : Nat} {d d' : Desk} {h' : Hall σ} {e : Option Entry}
    (hi : t.members[i]? = some d) (g : Desk.Goes fs t.state d d' h' e) :
    Balanced (es++e.toList) ⟨h',t.members.set i d'⟩ where
  queued := by
    rw [History.accepted_append,History.drawn_append,g.accepted_eq,ht.queued,List.append_nil,
      List.append_assoc,g.queue_eq]
  awaited p := by
    have hset := Team.countP_filterMap_set_add Desk.awaited p hi d'
    have hg := congrArg (List.countP p) g.awaited_eq
    have hp := ht.awaited p
    rw [List.countP_append,List.countP_append] at hg
    simp only [History.drawn_append,History.sent_append,List.countP_append]
    omega
  carried p := by
    have hset := Team.countP_filterMap_set_add Desk.carried p hi d'
    have hg := congrArg (List.countP p) g.carried_eq
    have hp := ht.carried p
    rw [List.countP_append,List.countP_append] at hg
    simp only [History.sent_append,History.landed_append,List.map_append,List.countP_append]
    omega
  ordered hle := by
    -- the only worker is the one that takes the step
    have hone : t.members.length = 1 := by
      have hlt := (List.getElem?_eq_some_iff.mp hi).1
      rw [List.length_set] at hle
      omega
    obtain ⟨x,hx⟩ := List.length_eq_one_iff.mp hone
    have ho := ht.ordered (Nat.le_of_eq hone)
    rw [hx] at hi ho
    obtain ⟨rfl,rfl⟩ : i = 0 ∧ x = d := by simpa [List.getElem?_cons,and_comm] using hi
    rw [Desk.filterMap_awaited] at ho
    rw [hx,List.set_cons_zero,Desk.filterMap_awaited,History.drawn_append,History.sent_append,ho,
      List.append_assoc,g.awaited_eq,List.append_assoc]
  counted := by
    have hg := g.counted
    have hc := ht.counted
    simp only [History.landed_append,List.countP_append,List.length_append]
    omega
  crashed hc := by
    rw [History.landed_append]
    rcases List.mem_or_eq_of_mem_set hc with hc | hc
    · obtain ⟨m,hm⟩ := ht.crashed hc
      exact ⟨m,List.mem_append_left _ hm⟩
    · rcases g.eq_crashed hc.symm with rfl | ⟨m,rfl⟩
      · obtain ⟨m,hm⟩ := ht.crashed (List.mem_of_getElem? hi)
        exact ⟨m,List.mem_append_left _ hm⟩
      · exact ⟨m,List.mem_append_right _ (List.mem_singleton.mpr rfl)⟩

omit [Journal σ] [Metered σ] in
theorem accept (ht : Balanced es t) (m : Message) :
    Balanced (es++[.accepted m])
      ⟨t.state.withQueue (t.state.dispatcher.queue++[m]),t.members⟩ := by
  have hd : History.drawn (es++[.accepted m]) = es.drawn :=
    (History.drawn_append ..).trans (List.append_nil _)
  have hs : History.sent (es++[.accepted m]) = es.sent :=
    (History.sent_append ..).trans (List.append_nil _)
  have hl : History.landed (es++[.accepted m]) = es.landed :=
    (History.landed_append ..).trans (List.append_nil _)
  refine ⟨?_,?_,?_,?_,?_,?_⟩
  · rw [History.accepted_append,ht.queued,hd,List.append_assoc]
    rfl
  · rw [hd,hs]
    exact ht.awaited
  · rw [hs,hl]
    exact ht.carried
  · rw [hd,hs]
    exact ht.ordered
  · rw [hl]
    exact ht.counted
  · rw [hl]
    exact ht.crashed

omit [Journal σ] [Metered σ] in
theorem of_same (ht : Balanced es t) {h' : Hall σ} (hd : h'.dispatcher = t.state.dispatcher) :
    Balanced (es++[]) ⟨h',t.members⟩ := by
  rw [List.append_nil]
  refine ⟨?_,ht.awaited,ht.carried,ht.ordered,?_,ht.crashed⟩
  · rw [hd]
    exact ht.queued
  · rw [hd]
    exact ht.counted

theorem step (ht : Balanced es t) (x : Move σ) :
    Balanced (es++(x.mark? t).toList) (x.take fs t) := by
  cases x with
  | work i =>
    rcases Move.work_cases fs i t with ⟨-,h,hm⟩ | ⟨d,d',h',hi,g,h⟩
    · rw [h,hm]
      exact ht.of_same rfl
    · rw [h]
      exact ht.work hi g
  | dispatch m =>
    simp only [Move.mark?,Move.take,Hall.dispatch]
    split
    · exact ht.accept m
    · exact ht.of_same rfl
  | lend => exact ht.of_same t.state.lend_dispatcher
  | shutdown => exact ht.of_same t.state.shutdown_dispatcher
  | join => exact ht.of_same (t.state.join_dispatcher t.members)
  | drop => exact ht.of_same rfl
  | around f => exact ht.of_same rfl

omit [Journal σ] [Metered σ] in
theorem drawn_perm (ht : Balanced es t) :
    es.drawn.Perm (es.sent++t.members.filterMap Desk.awaited) := by
  rw [List.perm_iff_count]
  intro m
  rw [List.count_append]
  exact ht.awaited (· == m)

omit [Journal σ] [Metered σ] in
theorem sent_perm (ht : Balanced es t) :
    es.sent.Perm (es.landed.map (·.1)++t.members.filterMap Desk.carried) := by
  rw [List.perm_iff_count]
  intro m
  rw [List.count_append]
  exact ht.carried (· == m)

omit [Journal σ] [Metered σ] in
theorem members_eq (ht : Balanced es t) (hcl : t.Closing) (hc : ∀ x ∈ es.landed,x.2 ≠ .crashed)
    {r : Nat × Nat} (hr : t.state.summary = some r) :
    t.members = List.replicate t.members.length .left := by
  refine List.eq_replicate_iff.mpr ⟨rfl,fun d hd => ?_⟩
  have hg := (hcl.returned r hr).1 d hd
  cases d with
  | left => rfl
  | crashed =>
    obtain ⟨m,hm⟩ := ht.crashed hd
    exact absurd rfl (hc _ hm)
  | _ => cases hg

omit [Journal σ] [Metered σ] in
/-- With an empty queue and no worker left, all that was accepted has been sent and has landed. -/
theorem drained (ht : Balanced es t) {n : Nat} (hm : t.members = .replicate n .left)
    (hq : t.state.dispatcher.queue = []) (hc : ∀ x ∈ es.landed,x.2 ≠ .crashed) :
    es.sent.Perm es.accepted ∧ (es.landed.map (·.1)).Perm es.accepted ∧
      (t.members.length ≤ 1 → es.sent = es.accepted) ∧
      t.state.dispatcher.processed+t.state.dispatcher.failed = es.accepted.length := by
  have haccepted : es.accepted = es.drawn := by rw [ht.queued,hq,List.append_nil]
  have hawaited : t.members.filterMap Desk.awaited = [] := by
    rw [hm]
    exact List.filterMap_replicate_of_none rfl
  have hcarried : t.members.filterMap Desk.carried = [] := by
    rw [hm]
    exact List.filterMap_replicate_of_none rfl
  have hsent : es.sent.Perm es.accepted := by
    have h := ht.drawn_perm
    rw [hawaited,List.append_nil] at h
    rw [haccepted]
    exact h.symm
  have hlanded : (es.landed.map (·.1)).Perm es.accepted := by
    have h := ht.sent_perm
    rw [hcarried,List.append_nil] at h
    exact h.symm.trans hsent
  refine ⟨hsent,hlanded,fun hle => ?_,?_⟩
  · have h := ht.ordered hle
    rw [hawaited,List.append_nil] at h
    rw [haccepted,h]
  · have hcrash : es.landed.countP (·.2 = .crashed) = 0 :=
      List.countP_eq_zero.mpr fun x hx hp => hc x hx (of_decide_eq_true hp)
    have hcount := ht.counted
    have hlen := hlanded.length_eq
    rw [List.length_map] at hlen
    omega

end Balanced

theorem run_balanced (ht : Balanced es t) (xs : List (Move σ)) :
    Balanced (es++history fs xs t) (run fs xs t) := by
  induction xs generalizing es t with
  | nil => rwa [history,List.append_nil]
  | cons x xs ih =>
    have hx := ih (t := x.take fs t) (ht.step x)
    rwa [List.append_assoc] at hx

omit [Metered σ] in
theorem balanced_ofSettings (s : DispatcherSettings) (st : σ) : Balanced [] (ofSettings s st) := by
  have ha : (ofSettings s st).members.filterMap Desk.awaited = [] :=
    List.filterMap_replicate_of_none rfl
  have hc : (ofSettings s st).members.filterMap Desk.carried = [] :=
    List.filterMap_replicate_of_none rfl
  refine ⟨rfl,fun p => ?_,fun p => ?_,fun _ => ?_,rfl,fun h => ?_⟩
  · rw [ha]
    rfl
  · rw [hc]
    rfl
  · rw [ha]
    rfl
  · cases (List.eq_of_mem_replicate h)

end Floor

variable {δ ρ : Type} {fs : List (Filter (Meter δ ρ))}

theorem Flight.step_tallies (hf : ∀ f ∈ fs,f.Untallied) (g : Flight) (m : Meter δ ρ) :
    (g.step fs m).2.tallies = m.tallies := by
  by_cases hg : g.fate = none
  · cases hget : fs[g.passed]? with
    | none => rw [step_through hg hget]
    | some f =>
      rw [step_pass hg hget]
      exact Filter.pass_tallies (hf f (List.mem_of_getElem? hget)) g.message m
  · rw [step_landed hg]

namespace Desk.Goes

variable {h h' : Hall (Meter δ ρ)} {d d' : Desk} {e : Option Entry}

theorem messages_eq (hf : ∀ f ∈ fs,f.Untallied) (g : Goes fs h d d' h' e) (kind : String) :
    h'.state.metrics.messagesOf kind =
      h.state.metrics.messagesOf kind+(History.sent e.toList).countP (·.kind = kind) := by
  cases g with
  | sends m =>
    have hk := Metrics.messagesOf_incMessages kind m.kind h.state.metrics
    have hc : (History.sent [Entry.sent m]).countP (·.kind = kind) =
        (decide (m.kind = kind)).toNat := by
      by_cases hm : m.kind = kind <;> simp [History.sent,hm]
    exact hk.trans (congrArg _ hc.symm)
  | @flies m g hg => exact Metrics.messagesOf_of_tallies (Flight.step_tallies hf g h.state) kind
  | _ => rfl

theorem errors_eq (hf : ∀ f ∈ fs,f.Untallied) (g : Goes fs h d d' h' e) :
    h'.state.metrics.errorsTotal+d'.isFailing.toNat+h.dispatcher.failed =
      h.state.metrics.errorsTotal+d.isFailing.toNat+h'.dispatcher.failed := by
  cases g with
  | @flies m g hg =>
    have ht := Metrics.errorsTotal_of_tallies (Flight.step_tallies hf g h.state)
    simp only [isFailing]
    omega
  | @lands m g p hp =>
    cases p with
    | failed e => exact Nat.add_right_comm _ 1 _
    | _ => rfl
  | tells m e =>
    show (h.state.metrics.incFilterErrors e.filter).errorsTotal+0+h.dispatcher.failed =
      h.state.metrics.errorsTotal+1+h.dispatcher.failed
    rw [Metrics.errorsTotal_incFilterErrors]
  | _ => rfl

end Desk.Goes

namespace Floor

def Move.Untallied : Move (Meter δ ρ) → Prop
  | .around f => ∀ m,(f m).tallies = m.tallies
  | _ => True

/-- The counters since a reading: all messages that have been sent, and all errors but those that workers
are about to tell of. -/
structure Reckoned (before : Metrics) (es : History) (t : Floor (Meter δ ρ)) : Prop where
  messages : ∀ kind,t.state.state.metrics.messagesOf kind =
    before.messagesOf kind+es.sent.countP (·.kind = kind)
  errors : t.state.state.metrics.errorsTotal+t.members.countP Desk.isFailing =
    before.errorsTotal+t.state.dispatcher.failed

namespace Reckoned

variable {before : Metrics} {es : History} {t : Floor (Meter δ ρ)}

theorem of_same (ht : Reckoned before es t) {es' : History} {h' : Hall (Meter δ ρ)}
    (hes : es'.sent = []) (hs : h'.state.tallies = t.state.state.tallies)
    (hd : h'.dispatcher.failed = t.state.dispatcher.failed) :
    Reckoned before (es++es') ⟨h',t.members⟩ := by
  refine ⟨fun kind => ?_,?_⟩
  · rw [History.sent_append,hes,List.append_nil]
    exact (Metrics.messagesOf_of_tallies hs kind).trans (ht.messages kind)
  · rw [hd,Metrics.errorsTotal_of_tallies hs]
    exact ht.errors

theorem step (hf : ∀ f ∈ fs,f.Untallied) (ht : Reckoned before es t) {x : Move (Meter δ ρ)}
    (hx : x.Untallied) : Reckoned before (es++(x.mark? t).toList) (x.take fs t) := by
  cases x with
  | work i =>
    rcases Move.work_cases fs i t with ⟨-,h,hm⟩ | ⟨d,d',h',hi,g,h⟩
    · rw [h,hm]
      exact ht.of_same rfl rfl rfl
    · rw [h]
      refine ⟨fun kind => ?_,?_⟩
      · rw [History.sent_append,List.countP_append,g.messages_eq hf kind,ht.messages kind,
          Nat.add_assoc]
      · have hset := Team.countP_set_add Desk.isFailing hi d'
        have hg := g.errors_eq hf
        have he := ht.errors
        simp only
        omega
  | dispatch m =>
    simp only [Move.mark?,Move.take,Hall.dispatch]
    split <;> exact ht.of_same rfl rfl rfl
  | lend =>
    exact ht.of_same rfl (congrArg Meter.tallies t.state.lend_state)
      (congrArg Dispatcher.failed t.state.lend_dispatcher)
  | shutdown =>
    exact ht.of_same rfl (congrArg Meter.tallies t.state.shutdown_state)
      (congrArg Dispatcher.failed t.state.shutdown_dispatcher)
  | join =>
    refine ht.of_same rfl ?_ (congrArg Dispatcher.failed (t.state.join_dispatcher t.members))
    unfold Hall.join
    split
    · split <;> rfl
    · rfl
  | drop => exact ht.of_same rfl rfl rfl
  | around f => exact ht.of_same rfl (hx _) rfl

end Reckoned

theorem run_reckoned {before : Metrics} {es : History} {t : Floor (Meter δ ρ)}
    {xs : List (Move (Meter δ ρ))} (hf : ∀ f ∈ fs,f.Untallied) (hx : ∀ x ∈ xs,x.Untallied)
    (ht : Reckoned before es t) : Reckoned before (es++history fs xs t) (run fs xs t) := by
  induction xs generalizing es t with
  | nil => rwa [history,List.append_nil]
  | cons x xs ih =>
    have hs := ih (fun y hy => hx y (List.mem_cons_of_mem _ hy))
      (ht.step hf (hx x List.mem_cons_self))
    rwa [List.append_assoc] at hs

theorem reckoned_ofSettings (s : DispatcherSettings) (m : Meter δ ρ) :
    Reckoned m.metrics [] (ofSettings s m) := by
  refine ⟨fun kind => rfl,?_⟩
  rw [countP_ofSettings s m rfl]
  rfl

/-- However producers, workers, the shutdown and what goes on around them take turns, no message is sent
that was not accepted, and none twice; a worker by itself keeps to the order in which they were accepted;
and the dispatcher can still be shut down. When the shutdown returns, every accepted message has been sent
and has come to its end, and the counts and the counters tell of each of them. -/
theorem accounted_once (s : DispatcherSettings) (m : Meter δ ρ) {xs : List (Move (Meter δ ρ))}
    (hf : ∀ f ∈ fs,f.Untallied) (hx : ∀ x ∈ xs,x.Untallied)
    (hc : ∀ x ∈ (history fs xs (ofSettings s m)).landed,x.2 ≠ .crashed) :
    let es := history fs xs (ofSettings s m)
    let t := run fs xs (ofSettings s m)
    (∃ rest,es.accepted.Perm (es.sent++rest)) ∧
      (s.workers ≤ 1 → es.sent <+: es.accepted) ∧
      (∃ ys,(∀ y ∈ ys,Move.isEnding y = true) ∧ (run fs ys t).state.summary.isSome = true) ∧
      ∀ processed failed,t.state.summary = some (processed,failed) →
        es.sent.Perm es.accepted ∧
          (es.landed.map (·.1)).Perm es.accepted ∧
          (s.workers ≤ 1 → es.sent = es.accepted) ∧
          processed+failed = es.accepted.length ∧
          (∀ kind,t.state.state.metrics.messagesOf kind =
            m.metrics.messagesOf kind+es.accepted.countP (·.kind = kind)) ∧
          t.state.state.metrics.errorsTotal = m.metrics.errorsTotal+failed := by
  intro es t
  have hb : Balanced es t := run_balanced (balanced_ofSettings s m) xs
  have hcl : t.Closing := run_closing (closing_ofSettings s m) xs
  have ht : Reckoned m.metrics es t := run_reckoned hf hx (reckoned_ofSettings s m)
  have hlen : t.members.length = max s.workers 1 :=
    (length_run xs (ofSettings s m)).trans List.length_replicate
  refine ⟨?_,fun hw => ?_,exists_run_returned fs t,?_⟩
  · refine ⟨t.members.filterMap Desk.awaited++t.state.dispatcher.queue,?_⟩
    rw [hb.queued,← List.append_assoc]
    exact hb.drawn_perm.append_right _
  · rw [hb.queued,hb.ordered (by omega),List.append_assoc]
    exact List.prefix_append _ _
  · intro processed failed hr
    have hleft := hb.members_eq hcl hc hr
    obtain ⟨hall,hpf⟩ := hcl.returned _ hr
    have hq : t.state.dispatcher.queue = [] := (hcl.left (by
      rw [hleft]
      exact List.mem_replicate.mpr ⟨by omega,rfl⟩)).2
    obtain ⟨hsent,hlanded,hone,hsum⟩ := hb.drained hleft hq hc
    obtain ⟨rfl,rfl⟩ := Prod.mk.inj hpf
    refine ⟨hsent,hlanded,fun hw => hone (by omega),hsum,fun kind => ?_,?_⟩
    · rw [ht.messages kind,hsent.countP_eq]
    · have he := ht.errors
      have hnone : t.members.countP Desk.isFailing = 0 := by
        rw [hleft,List.countP_replicate]
        rfl
      rw [hnone] at he
      exact he

def refusing : Floor (Watched Fleet Inbox) :=
  ofSettings { workers := 2, places := 1 }
    { Watched.small with backend := { inner := { failing := true } } }

def rush : List (Move (Watched Fleet Inbox)) :=
  [.lend,.dispatch (.discovery Watched.web),.work 0,.dispatch .devnull,.work 1,.drop,.shutdown]++
    (List.replicate 11 [.work 1,.work 0]).flatten++[.join,.join,.join]

theorem accounted_once_rush :
    (run (Chain.standard Watched.chain) rush refusing).state.summary = some (1,1) ∧
      (history (Chain.standard Watched.chain) rush refusing).sent =
        [.devnull,.discovery Watched.web] ∧
      (history (Chain.standard Watched.chain) rush refusing).sent.Perm
        (history (Chain.standard Watched.chain) rush refusing).accepted ∧
      (run (Chain.standard Watched.chain) rush refusing).state.state.metrics.errorsTotal =
        refusing.state.state.metrics.errorsTotal+1 := by
  have hx : ∀ x ∈ rush,x.Untallied := by simp [rush,Move.Untallied]
  have hc : ∀ x ∈ (history (Chain.standard Watched.chain) rush refusing).landed,x.2 ≠ .crashed := by
    decide
  have hs : (run (Chain.standard Watched.chain) rush refusing).state.summary = some (1,1) := by
    decide
  obtain ⟨-,-,-,h⟩ := accounted_once { workers := 2, places := 1 } _
    (Chain.standard_untallied Watched.chain) hx hc
  obtain ⟨hsent,-,-,-,-,herrors⟩ := h 1 1 hs
  exact ⟨hs,by decide,hsent,herrors⟩

end Floor

end HostMeter
