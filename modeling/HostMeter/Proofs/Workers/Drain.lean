import HostMeter.Proofs.Workers.Hall
set_option autoImplicit false

/-! The end of a dispatcher. A worker leaves when no message can come and none is queued, and the shutdown
returns when all workers are gone. It can always be brought to that, by giving the handles back and
letting the workers go on. -/

namespace HostMeter

variable {σ : Type} [Journal σ] [Metered σ] {fs : List (Filter σ)}

namespace Hall

variable {h : Hall σ}

omit [Journal σ] [Metered σ] in
theorem isOpen_eq_false : h.isOpen = false ↔ h.handles = 0 ∧ h.closing.isSome = true := by
  simp [isOpen]

omit [Journal σ] [Metered σ] in
theorem accepts_open (ha : h.accepts = true) : h.isOpen = true := by
  simp only [accepts,Bool.and_eq_true] at ha
  simp only [isOpen,ha.1.1,Bool.true_or]

omit [Metered σ] in
theorem join_cases (ds : List Desk) (h : Hall σ) :
    h.join ds = h ∨
      (∃ i d s,h.closing = some i ∧ ds[i]? = some d ∧ d.isGone = true ∧
        h.join ds = { h with closing := some (i+1), state := s }) ∨
      ∃ i s,h.closing = some i ∧ ds[i]? = none ∧
        h.join ds =
          { h with
            summary := some (h.dispatcher.processed,h.dispatcher.failed)
            state := s } := by
  unfold join
  split
  · rename_i i hs hc
    split
    · rename_i hd
      exact .inr (.inl ⟨i,.left,h.state,hc,hd,rfl,rfl⟩)
    · rename_i hd
      exact .inr (.inl ⟨i,.crashed,_,hc,hd,rfl,rfl⟩)
    · exact .inl rfl
    · rename_i hd
      exact .inr (.inr ⟨i,_,hc,hd,rfl⟩)
  · exact .inl rfl

end Hall

namespace Desk.Goes

variable {h h' : Hall σ} {d d' : Desk} {e : Option Entry}

theorem of_gone (g : Goes fs h d d' h' e) (hd : d.isGone = true) : d' = d ∧ h' = h := by
  cases g <;> first | exact ⟨rfl,rfl⟩ | cases hd

theorem handles_eq (g : Goes fs h d d' h' e) : h'.handles = h.handles := by
  cases g <;> rfl

theorem closing_eq (g : Goes fs h d d' h' e) : h'.closing = h.closing := by
  cases g <;> rfl

theorem summary_eq (g : Goes fs h d d' h' e) : h'.summary = h.summary := by
  cases g <;> rfl

theorem isOpen_eq (g : Goes fs h d d' h' e) : h'.isOpen = h.isOpen := by
  simp only [Hall.isOpen,g.handles_eq,g.closing_eq]

theorem queue_nil (g : Goes fs h d d' h' e) (hq : h.dispatcher.queue = []) :
    h'.dispatcher.queue = [] := by
  cases g with
  | draws hm =>
    rw [hq] at hm
    cases hm
  | @lands m g p hf => cases p <;> exact hq
  | _ => exact hq

theorem eq_left (g : Goes fs h d d' h' e) (hd : d' = .left) :
    d = .left ∨ h.dispatcher.queue = [] ∧ h.isOpen = false := by
  cases g with
  | leaves hq ho => exact .inr ⟨hq,ho⟩
  | left => exact .inl rfl
  | @lands m g p hf => cases p <;> cases hd
  | _ => cases hd

end Desk.Goes

namespace Floor

structure Closing (t : Floor σ) : Prop where
  left : .left ∈ t.members → t.state.isOpen = false ∧ t.state.dispatcher.queue = []
  joined : ∀ j,t.state.closing = some j → ∀ d ∈ t.members.take j,d.isGone = true
  returned : ∀ r,t.state.summary = some r → (∀ d ∈ t.members,d.isGone = true) ∧
    r = (t.state.dispatcher.processed,t.state.dispatcher.failed)

namespace Closing

variable {t : Floor σ} {h' : Hall σ}

omit [Journal σ] [Metered σ] in
/-- What happens as long as messages can come brings nothing to an end. -/
theorem of_open (ht : t.Closing) (ho : t.state.isOpen = true)
    (hj : ∀ j,h'.closing = some j → t.state.closing = some j ∨ j = 0)
    (hs : h'.summary = t.state.summary)
    (hp : h'.dispatcher.processed = t.state.dispatcher.processed)
    (hf : h'.dispatcher.failed = t.state.dispatcher.failed) : Closing ⟨h',t.members⟩ where
  left hl := by
    rw [(ht.left hl).1] at ho
    cases ho
  joined j hc d hd := by
    rcases hj j hc with hc | rfl
    · exact ht.joined j hc d hd
    · cases hd
  returned r hr := by
    rw [hs] at hr
    rw [hp,hf]
    exact ht.returned r hr

omit [Metered σ] in
theorem join (ht : t.Closing) : Closing { t with state := t.state.join t.members } := by
  rcases Hall.join_cases t.members t.state with h | ⟨i,d,s,hc,hd,hg,h⟩ | ⟨i,s,hc,hd,h⟩
  · rw [h]
    exact ht
  · rw [h]
    refine ⟨fun hl => ⟨?_,(ht.left hl).2⟩,?_,ht.returned⟩
    · exact Hall.isOpen_eq_false.mpr ⟨(Hall.isOpen_eq_false.mp (ht.left hl).1).1,rfl⟩
    · rintro j ⟨⟩ x hx
      rw [List.take_add_one,hd,Option.toList_some] at hx
      rcases List.mem_append.mp hx with hx | hx
      · exact ht.joined i hc x hx
      · rwa [List.mem_singleton.mp hx]
  · rw [h]
    refine ⟨ht.left,ht.joined,?_⟩
    rintro r ⟨⟩
    have hall := ht.joined i hc
    rw [List.take_of_length_le (List.getElem?_eq_none_iff.mp hd)] at hall
    exact ⟨hall,rfl⟩

theorem work (ht : t.Closing) {i : Nat} {d d' : Desk} {e : Option Entry}
    (hi : t.members[i]? = some d) (g : Desk.Goes fs t.state d d' h' e) :
    Closing ⟨h',t.members.set i d'⟩ := by
  by_cases hd : d.isGone = true
  · obtain ⟨rfl,rfl⟩ := g.of_gone hd
    obtain ⟨hlt,rfl⟩ := List.getElem?_eq_some_iff.mp hi
    rw [List.set_getElem_self]
    exact ht
  · -- the shutdown has not got past a worker that is still there
    have hmem := List.mem_of_getElem? hi
    refine ⟨fun hl => ?_,fun j hj => ?_,fun r hr => ?_⟩
    · rw [g.isOpen_eq]
      rcases List.mem_or_eq_of_mem_set hl with hl | hl
      · exact ⟨(ht.left hl).1,g.queue_nil (ht.left hl).2⟩
      · rcases g.eq_left hl.symm with rfl | ⟨hq,ho⟩
        · exact absurd rfl hd
        · exact ⟨ho,g.queue_nil hq⟩
    · rw [g.closing_eq] at hj
      have hle : j ≤ i := by
        by_contra hlt
        have hi' : (t.members.take j)[i]? = some d := by
          rw [List.getElem?_take_of_lt (by omega),hi]
        exact hd (ht.joined j hj d (List.mem_of_getElem? hi'))
      rw [List.take_set_of_le hle]
      exact ht.joined j hj
    · rw [g.summary_eq] at hr
      exact absurd ((ht.returned r hr).1 d hmem) hd

theorem step (ht : t.Closing) (x : Move σ) : (x.take fs t).Closing := by
  cases x with
  | lend =>
    simp only [Move.take,Hall.lend]
    split
    · rename_i ho
      exact ht.of_open ho (fun j hj => .inl hj) rfl rfl rfl
    · exact ht
  | dispatch m =>
    simp only [Move.take,Hall.dispatch]
    split
    · rename_i ha
      exact ht.of_open (Hall.accepts_open ha) (fun j hj => .inl hj) rfl rfl rfl
    · exact ht
  | drop =>
    refine ⟨fun hl => ⟨?_,(ht.left hl).2⟩,ht.joined,ht.returned⟩
    have ho := Hall.isOpen_eq_false.mp (ht.left hl).1
    have hz : t.state.handles-1 = 0 := by rw [ho.1]
    exact Hall.isOpen_eq_false.mpr ⟨hz,ho.2⟩
  | work i =>
    rcases Move.work_cases fs i t with ⟨-,h,-⟩ | ⟨d,d',h',hi,g,h⟩
    · rw [h]
      exact ht
    · rw [h]
      exact ht.work hi g
  | shutdown =>
    simp only [Move.take,Hall.shutdown]
    split
    · rename_i hn
      have ho : t.state.isOpen = true := by simp only [Hall.isOpen,hn,Bool.or_true]
      exact ht.of_open ho (fun j hj => .inr (Option.some.inj hj).symm) rfl rfl rfl
    · exact ht
  | join => exact ht.join
  | around f => exact ⟨ht.left,ht.joined,ht.returned⟩

end Closing

theorem run_closing {t : Floor σ} (ht : t.Closing) (xs : List (Move σ)) : (run fs xs t).Closing := by
  induction xs generalizing t with
  | nil => exact ht
  | cons x xs ih => exact ih (ht.step x)

omit [Metered σ] in
theorem closing_ofSettings (s : DispatcherSettings) (st : σ) : (ofSettings s st).Closing where
  left hl := by cases (List.eq_of_mem_replicate hl)
  joined j hj := by cases hj
  returned r hr := by cases hr

end Floor

/-- An upper bound for what a worker has still to do, `n` filters long. -/
def Desk.effort (n : Nat) : Desk → Nat
  | .free => 1
  | .drawn _ => n+5
  | .busy _ g => if g.fate.isSome then 3 else 4+(n-g.passed)
  | .failing .. => 2
  | .left | .crashed => 0

omit [Metered σ] in
theorem Desk.effort_fly (fs : List (Filter σ)) (m : Message) {g : Flight} (hf : g.fate = none)
    (s : σ) : (Desk.busy m (g.step fs s).1).effort fs.length < (Desk.busy m g).effort fs.length := by
  cases hget : fs[g.passed]? with
  | none =>
    rw [Flight.step_through hf hget]
    simp only [effort,hf,Option.isSome_some,Option.isSome_none,if_true]
    simp only [Bool.false_eq_true,if_false]
    omega
  | some f =>
    have hlt := (List.getElem?_eq_some_iff.mp hget).1
    rw [Flight.step_pass hf hget]
    cases (f.pass g.message s).1 with
    | ok msg =>
      simp only [effort,Flight.land,hf,Option.isSome_none,Bool.false_eq_true,if_false]
      omega
    | error p =>
      simp only [effort,Flight.land,hf,Option.isSome_some,Option.isSome_none,if_true]
      simp only [Bool.false_eq_true,if_false]
      omega

/-- Once the queue is closed, every step of a worker that is not gone brings the end nearer. -/
theorem Desk.Goes.effort_lt {h h' : Hall σ} {d d' : Desk} {e : Option Entry}
    (g : Goes fs h d d' h' e) (ho : h.isOpen = false) (hd : d.isGone = false) :
    h'.dispatcher.queue.length*(fs.length+5)+d'.effort fs.length <
      h.dispatcher.queue.length*(fs.length+5)+d.effort fs.length := by
  cases g with
  | waits _ ho' =>
    rw [ho] at ho'
    cases ho'
  | leaves => exact Nat.lt_succ_self _
  | @draws m ms hq =>
    have hlen : (h.withQueue ms).dispatcher.queue.length = ms.length := rfl
    rw [hlen,hq,List.length_cons,Nat.add_mul]
    simp only [effort]
    omega
  | sends m =>
    simp only [effort,Option.isSome_none,Bool.false_eq_true,if_false]
    omega
  | flies m hf => exact Nat.add_lt_add_left (effort_fly fs m hf h.state) _
  | @lands m g p hf =>
    have he : (Desk.busy m g).effort fs.length = 3 := by simp [effort,hf]
    rw [he]
    cases p <;> simp [finish,effort]
  | tells => exact Nat.lt_succ_self _
  | left => cases hd
  | crashed => cases hd

namespace Floor

namespace Move

/-- Moves that bring no message and change nothing around the dispatcher. -/
def isEnding : Move σ → Bool
  | .drop | .work _ | .shutdown | .join => true
  | _ => false

end Move

def effort (n : Nat) (t : Floor σ) : Nat :=
  t.state.dispatcher.queue.length*(n+5)+(t.members.map (Desk.effort n)).sum

variable {t : Floor σ}

theorem effort_work (fs : List (Filter σ)) (ho : t.state.isOpen = false) {i : Nat} {d : Desk}
    (hi : t.members[i]? = some d) (hd : d.isGone = false) :
    ((Move.work i).take fs t).effort fs.length < t.effort fs.length := by
  rcases Move.work_cases fs i t with ⟨hn,-,-⟩ | ⟨d₀,d',h',hi',g,h⟩
  · rw [hn] at hi
    cases hi
  · obtain rfl : d₀ = d := Option.some.inj (hi'.symm.trans hi)
    have hlt := g.effort_lt ho hd
    have hsum := Team.sum_set_add (Desk.effort fs.length) hi d'
    rw [h]
    simp only [effort]
    omega

theorem exists_run_gone (fs : List (Filter σ)) (t : Floor σ) (ho : t.state.isOpen = false) :
    ∃ xs,(∀ x ∈ xs,Move.isEnding x = true) ∧
      (∀ d ∈ (run fs xs t).members,d.isGone = true) ∧
      (run fs xs t).state.closing = t.state.closing ∧
      (run fs xs t).state.summary = t.state.summary := by
  induction hn : t.effort fs.length using Nat.strongRecOn generalizing t with
  | ind n ih =>
    by_cases hall : ∀ d ∈ t.members,d.isGone = true
    · exact ⟨[],by simp,hall,rfl,rfl⟩
    · obtain ⟨d,hd,hg⟩ : ∃ d ∈ t.members,d.isGone = false := by simpa using hall
      obtain ⟨i,hi⟩ := List.mem_iff_getElem?.mp hd
      have hlt := effort_work fs ho hi hg
      rcases Move.work_cases fs i t with ⟨hnone,-,-⟩ | ⟨d₀,d',h',-,g,h⟩
      · rw [hnone] at hi
        cases hi
      · have ho' : ((Move.work i).take fs t).state.isOpen = false := by
          rw [h]
          exact g.isOpen_eq.trans ho
        obtain ⟨xs,hx,hgone,hc,hs⟩ := ih _ (hn ▸ hlt) ((Move.work i).take fs t) ho' rfl
        refine ⟨.work i :: xs,?_,hgone,hc.trans ?_,hs.trans ?_⟩
        · simpa [Move.isEnding] using hx
        · rw [h]
          exact g.closing_eq
        · rw [h]
          exact g.summary_eq

theorem exists_run_joined {j : Nat} (hall : ∀ d ∈ t.members,d.isGone = true)
    (hc : t.state.closing = some j) (hs : t.state.summary = none) :
    ∃ xs,(∀ x ∈ xs,Move.isEnding x = true) ∧ (run fs xs t).state.summary.isSome = true := by
  induction hn : t.members.length-j generalizing t j with
  | zero => 
    have hd : t.members[j]? = none := List.getElem?_eq_none (by omega)
    refine ⟨[.join],by simp [Move.isEnding],?_⟩
    simp [run,Move.take,Hall.join,hs,hc,hd]
  | succ n ih =>
    obtain ⟨d,hd⟩ : ∃ d,t.members[j]? = some d := ⟨_,List.getElem?_eq_getElem (by omega)⟩
    have hg := hall d (List.mem_of_getElem? hd)
    have hstep : ∃ s,Move.join.take fs t =
        ⟨{ t.state with closing := some (j+1), state := s },t.members⟩ := by
      cases d with
      | left => exact ⟨t.state.state,by simp only [Move.take,Hall.join,hs,hc,hd]⟩
      | crashed =>
        exact ⟨note .workerCrashed t.state.state,by simp only [Move.take,Hall.join,hs,hc,hd]⟩
      | _ => cases hg
    obtain ⟨s,h⟩ := hstep
    have hlen : t.members.length-(j+1) = n := by omega
    obtain ⟨xs,hx,hr⟩ := ih (t := Move.join.take fs t) (j := j+1)
      (by rw [h]; exact hall) (by rw [h]) (by rw [h]; exact hs) (by rw [h]; exact hlen)
    exact ⟨.join :: xs,by simpa [Move.isEnding] using hx,hr⟩

omit [Metered σ] [Journal σ] in
theorem isEnding_append {xs ys : List (Move σ)} (hx : ∀ x ∈ xs,Move.isEnding x = true)
    (hy : ∀ y ∈ ys,Move.isEnding y = true) : ∀ x ∈ xs++ys,Move.isEnding x = true := by
  intro x h
  rcases List.mem_append.mp h with h | h
  · exact hx x h
  · exact hy x h

theorem exists_run_closed (fs : List (Filter σ)) (t : Floor σ) :
    ∃ xs,(∀ x ∈ xs,Move.isEnding x = true) ∧ (run fs xs t).state.isOpen = false ∧
      (run fs xs t).state.summary = t.state.summary := by
  induction hn : t.state.handles generalizing t with
  | zero =>
    refine ⟨[.shutdown],by simp [Move.isEnding],?_,?_⟩
    · cases hc : t.state.closing <;>
        simp [run,Move.take,Hall.shutdown,Hall.isOpen,hc,hn]
    · cases hc : t.state.closing <;> simp [run,Move.take,Hall.shutdown,hc]
  | succ n ih =>
    have hd : (Move.drop.take fs t).state.handles = n := by
      simp [Move.take,Hall.drop,hn]
    obtain ⟨xs,hx,ho,hs⟩ := ih (Move.drop.take fs t) hd
    exact ⟨.drop :: xs,by simpa [Move.isEnding] using hx,ho,hs⟩

/-- However far a dispatcher is, it can be shut down. -/
theorem exists_run_returned (fs : List (Filter σ)) (t : Floor σ) :
    ∃ xs,(∀ x ∈ xs,Move.isEnding x = true) ∧ (run fs xs t).state.summary.isSome = true := by
  obtain ⟨xs,hx,ho,hsx⟩ := exists_run_closed fs t
  obtain ⟨ys,hy,hall,hc,hsy⟩ := exists_run_gone fs _ ho
  cases hs : t.state.summary with
  | some r => exact ⟨[],by simp,by simp [run,hs]⟩
  | none =>
    obtain ⟨j,hj⟩ := Option.isSome_iff_exists.mp (Hall.isOpen_eq_false.mp ho).2
    obtain ⟨zs,hz,hr⟩ := exists_run_joined hall (hc.trans hj) (hsy.trans (hsx.trans hs))
    refine ⟨xs++ys++zs,isEnding_append (isEnding_append hx hy) hz,?_⟩
    rw [run_append,run_append]
    exact hr

end Floor

end HostMeter
