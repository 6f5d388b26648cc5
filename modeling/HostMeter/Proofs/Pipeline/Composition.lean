import HostMeter.Proofs.Pipeline
import HostMeter.Rehearsal
set_option autoImplicit false

/-! Two pipelines in a row are one. The filters of a run are made to write down what they are handed
and in which state, and the pipeline does not notice; what it comes to and what it notes can then be
read off this log, however the filters act on the state and on each other. -/

namespace HostMeter

def Request.override? : Request → Option Message
  | .stop => none
  | .supersede msg => some msg

/-- A filter that is handed a message in some state. -/
structure Visit (σ : Type) where
  filter : Filter σ
  message : Message
  state : σ

namespace Visit

variable {σ : Type}

def turn (v : Visit σ) : Turn := (v.filter.handle v.message v.state).1

def overrides (v : Visit σ) : List Message := v.turn.requests.filterMap Request.override?

/-- What a message is behind some filters: the last that one of them has set. -/
def lastSet (msg : Message) (vs : List (Visit σ)) : Message :=
  (vs.flatMap overrides).getLast?.getD msg

def ending? (v : Visit σ) : Option Passage :=
  match v.turn.verdict with
  | .failed c => some (.failed ⟨v.filter.name,c⟩)
  | .crashed => some .crashed
  | .done => if .stop ∈ v.turn.requests then some .stopped else none

def GoesOn (v : Visit σ) : Prop := v.ending? = none

instance (v : Visit σ) : Decidable v.GoesOn := inferInstanceAs (Decidable (v.ending? = none))

/-- The pipeline's own note: that the run was stopped here, or that an override was taken. -/
def notice? (v : Visit σ) : Option Notice :=
  match v.ending? with
  | some .stopped => some (.processingStopped v.filter.name)
  | some _ => none
  | none => v.overrides.getLast?.map fun msg => .superseded v.filter.name msg.kind

theorem goesOn_iff (v : Visit σ) :
    v.GoesOn ↔ v.turn.verdict = .done ∧ .stop ∉ v.turn.requests := by
  unfold GoesOn ending?
  cases v.turn.verdict <;> simp

theorem lastSet_append (msg : Message) (vs ws : List (Visit σ)) :
    lastSet msg (vs++ws) = lastSet (lastSet msg vs) ws := by
  unfold lastSet
  rw [List.flatMap_append,List.getLast?_append]
  cases (ws.flatMap overrides).getLast? <;> rfl

theorem lastSet_cons (msg : Message) (v : Visit σ) (vs : List (Visit σ)) :
    lastSet msg (v :: vs) = lastSet (lastSet msg [v]) vs := lastSet_append msg [v] vs

def behind (v : Visit σ) : Except Passage Message :=
  match v.ending? with
  | some p => .error p
  | none => .ok (lastSet v.message [v])

theorem behind_end {v : Visit σ} {p : Passage} (h : v.ending? = some p) : v.behind = .error p := by
  rw [behind,h]

theorem behind_on {v : Visit σ} (h : v.GoesOn) : v.behind = .ok (lastSet v.message [v]) := by
  rw [behind,h]

end Visit

theorem Context.foldl_accept (rs : List Request) (ctx : Context) :
    rs.foldl accept ctx =
      ⟨ctx.stopped || decide (.stop ∈ rs),(rs.filterMap Request.override?).getLast?.or ctx.next⟩ := by
  induction rs generalizing ctx with
  | nil => simp
  | cons r rs ih =>
    rw [List.foldl_cons,ih]
    cases r with
    | stop => simp [accept,Request.override?]
    | supersede msg => simp [accept,Request.override?,List.getLast?_cons]

theorem Context.ofRequests_eq (rs : List Request) :
    ofRequests rs = ⟨decide (.stop ∈ rs),(rs.filterMap Request.override?).getLast?⟩ := by
  simp [ofRequests,foldl_accept]

variable {σ : Type} [Journal σ]

namespace Visit

def left (v : Visit σ) : σ :=
  let s := (v.filter.handle v.message v.state).2
  (v.notice?.map (note · s)).getD s

theorem pass_eq (v : Visit σ) : v.filter.pass v.message v.state = (v.behind,v.left) := by
  rcases h : v.filter.handle v.message v.state with ⟨turn,t⟩
  have ht : v.turn = turn := congrArg Prod.fst h
  unfold behind left notice?
  cases hv : turn.verdict with
  | failed c => simp [Filter.pass,h,ending?,ht,hv]
  | crashed => simp [Filter.pass,h,ending?,ht,hv]
  | done =>
    by_cases hs : .stop ∈ turn.requests
    · simp [Filter.pass,h,ending?,ht,hv,hs,Context.ofRequests_eq]
    · cases hn : (turn.requests.filterMap Request.override?).getLast? <;>
        simp [Filter.pass,h,ending?,overrides,lastSet,ht,hv,hs,hn,Context.ofRequests_eq]

end Visit

/-- A state with a log beside it: the visits in order, and the pipeline's notes. -/
structure Logged (σ : Type) where
  state : σ
  visits : List (Visit σ) := []
  notes : List Notice := []

instance : Journal (Logged σ) where
  note n t := { t with state := note n t.state, notes := t.notes++[n] }

omit [Journal σ] in
/-- A filter that writes down each visit, and does nothing else that it did not do before. -/
def Filter.logged (f : Filter σ) : Filter (Logged σ) where
  name := f.name
  handle msg t :=
    ((f.handle msg t.state).1,
      { t with state := (f.handle msg t.state).2, visits := t.visits++[⟨f,msg,t.state⟩] })

namespace Logged

def add (t : Logged σ) (v : Visit σ) : Logged σ :=
  ⟨v.left,t.visits++[v],t.notes++v.notice?.toList⟩

end Logged

theorem Filter.pass_logged (f : Filter σ) (msg : Message) (t : Logged σ) :
    f.logged.pass msg t = ((Visit.mk f msg t.state).behind,t.add ⟨f,msg,t.state⟩) := by
  rw [(Visit.mk f.logged msg t).pass_eq]
  have he : (Visit.mk f.logged msg t).ending? = (Visit.mk f msg t.state).ending? := rfl
  have ho : (Visit.mk f.logged msg t).overrides = (Visit.mk f msg t.state).overrides := rfl
  have hn : (Visit.mk f.logged msg t).notice? = (Visit.mk f msg t.state).notice? := rfl
  have hb : (Visit.mk f.logged msg t).behind = (Visit.mk f msg t.state).behind := by
    simp only [Visit.behind,he,Visit.lastSet,List.flatMap_singleton,ho]
  rw [hb]
  unfold Visit.left Logged.add
  rw [hn]
  cases hv : (Visit.mk f msg t.state).notice? <;> simp [Visit.left,hv,Filter.logged,note]

namespace Pipeline

variable {fs gs : List (Filter σ)} {f : Filter σ} {msg msg' : Message} {s : σ} {t : Logged σ}
  {p : Passage}

def log (fs : List (Filter σ)) (msg : Message) (s : σ) : Logged σ :=
  (run (fs.map Filter.logged) msg { state := s }).2

/-- The filters that a run executes, each with the message and the state it meets. -/
def visits (fs : List (Filter σ)) (msg : Message) (s : σ) : List (Visit σ) := (log fs msg s).visits

/-- What the pipeline notes in a run. -/
def notes (fs : List (Filter σ)) (msg : Message) (s : σ) : List Notice := (log fs msg s).notes

theorem run_end (h : (Visit.mk f msg s).behind = .error p) :
    run (f :: fs) msg s = (p,(Visit.mk f msg s).left) := by
  rw [run,runIn_cons,(Visit.mk f msg s).pass_eq,h]

theorem run_on (h : (Visit.mk f msg s).behind = .ok msg') :
    run (f :: fs) msg s = run fs msg' (Visit.mk f msg s).left := by
  rw [run,runIn_cons,(Visit.mk f msg s).pass_eq,h]
  rfl

theorem logged_end (h : (Visit.mk f msg t.state).behind = .error p) :
    run ((f :: fs).map Filter.logged) msg t = (p,t.add ⟨f,msg,t.state⟩) := by
  rw [List.map_cons,run,runIn_cons,f.pass_logged,h]

theorem logged_on (h : (Visit.mk f msg t.state).behind = .ok msg') :
    run ((f :: fs).map Filter.logged) msg t =
      run (fs.map Filter.logged) msg' (t.add ⟨f,msg,t.state⟩) := by
  rw [List.map_cons,run,runIn_cons,f.pass_logged,h]
  rfl

theorem log_end (h : (Visit.mk f msg s).behind = .error p) :
    log (f :: fs) msg s = ⟨(Visit.mk f msg s).left,[⟨f,msg,s⟩],(Visit.mk f msg s).notice?.toList⟩ := by
  rw [log,logged_end h]
  rfl

theorem run_logged (fs : List (Filter σ)) (msg : Message) (t : Logged σ) :
    run (fs.map Filter.logged) msg t =
      ((run fs msg t.state).1,
        ⟨(run fs msg t.state).2,t.visits++visits fs msg t.state,t.notes++notes fs msg t.state⟩) := by
  induction fs generalizing msg t with
  | nil => simp [run,runIn,visits,notes,log]
  | cons f fs ih =>
    cases h : (Visit.mk f msg t.state).behind with
    | error p =>
      rw [logged_end h,run_end h,visits,notes,log_end h]
      rfl
    | ok msg' =>
      have hl : log (f :: fs) msg t.state =
          (run (fs.map Filter.logged) msg' (Logged.add { state := t.state } ⟨f,msg,t.state⟩)).2 :=
        congrArg Prod.snd (logged_on h)
      rw [logged_on h,run_on h,visits,notes,hl,ih,ih]
      simp [Logged.add]

theorem log_on (h : (Visit.mk f msg s).behind = .ok msg') :
    log (f :: fs) msg s =
      ⟨(run fs msg' (Visit.mk f msg s).left).2,
        ⟨f,msg,s⟩ :: visits fs msg' (Visit.mk f msg s).left,
        (Visit.mk f msg s).notice?.toList++notes fs msg' (Visit.mk f msg s).left⟩ := by
  have hl : log (f :: fs) msg s =
      (run (fs.map Filter.logged) msg' (Logged.add { state := s } ⟨f,msg,s⟩)).2 :=
    congrArg Prod.snd (logged_on h)
  rw [hl,run_logged]
  rfl

theorem visits_end (h : (Visit.mk f msg s).ending? = some p) :
    visits (f :: fs) msg s = [⟨f,msg,s⟩] := by
  rw [visits,log_end (Visit.behind_end h)]

theorem visits_on (h : (Visit.mk f msg s).GoesOn) :
    visits (f :: fs) msg s =
      ⟨f,msg,s⟩ :: visits fs (Visit.lastSet msg [⟨f,msg,s⟩]) (Visit.mk f msg s).left := by
  rw [visits,log_on (Visit.behind_on h)]

/-- The second pipeline takes over where the first has let the message through. -/
theorem run_append (fs gs : List (Filter σ)) (msg : Message) (s : σ) :
    run (fs++gs) msg s =
      if ∀ v ∈ visits fs msg s,v.GoesOn then
        run gs (Visit.lastSet msg (visits fs msg s)) (run fs msg s).2
      else run fs msg s := by
  induction fs generalizing msg s with
  | nil => simp [visits,log,run,runIn,Visit.lastSet]
  | cons f fs ih =>
    cases h : (Visit.mk f msg s).ending? with
    | some p =>
      have hv : ¬(Visit.mk f msg s).GoesOn := by simp [Visit.GoesOn,h]
      rw [List.cons_append,run_end (Visit.behind_end h),run_end (Visit.behind_end h),visits_end h,
        if_neg (by simpa using hv)]
    | none =>
      rw [List.cons_append,run_on (Visit.behind_on h),run_on (Visit.behind_on h),ih,visits_on h,
        ← Visit.lastSet_cons]
      have hv : (Visit.mk f msg s).GoesOn := h
      simp only [List.forall_mem_cons,hv,true_and]

/-- A filter is only asked when all before it have let the message go on, and then all of what they
did is behind it: the last that was set, and the state that they have left. -/
theorem visit_met (fs : List (Filter σ)) (msg : Message) (s : σ) {k : Nat} {v : Visit σ}
    (hv : (visits fs msg s)[k]? = some v) :
    fs[k]? = some v.filter ∧
      (∀ u ∈ (visits fs msg s).take k,u.GoesOn) ∧
      v.message = Visit.lastSet msg ((visits fs msg s).take k) ∧
      v.state = (run (fs.take k) msg s).2 := by
  induction fs generalizing msg s k with
  | nil => simp [visits,log,run,runIn] at hv
  | cons f fs ih =>
    cases h : (Visit.mk f msg s).ending? with
    | some p =>
      rw [visits_end h] at hv ⊢
      cases k with
      | zero =>
        obtain rfl : Visit.mk f msg s = v := by simpa using hv
        exact ⟨rfl,by simp,rfl,rfl⟩
      | succ k => simp at hv
    | none =>
      rw [visits_on h] at hv ⊢
      cases k with
      | zero =>
        obtain rfl : Visit.mk f msg s = v := by simpa using hv
        exact ⟨rfl,by simp,rfl,rfl⟩
      | succ k =>
        obtain ⟨hf,hall,hm,hs⟩ := ih _ _ (by simpa using hv)
        refine ⟨by simpa using hf,?_,?_,?_⟩
        · rw [List.take_succ_cons,List.forall_mem_cons]
          exact ⟨h,hall⟩
        · rw [List.take_succ_cons,Visit.lastSet_cons]
          exact hm
        · rw [List.take_succ_cons,run_on (Visit.behind_on h)]
          exact hs

theorem visits_all (fs : List (Filter σ)) (msg : Message) (s : σ)
    (h : ∀ v ∈ visits fs msg s,v.GoesOn) : (visits fs msg s).length = fs.length := by
  induction fs generalizing msg s with
  | nil => rfl
  | cons f fs ih =>
    cases hv : (Visit.mk f msg s).ending? with
    | some p =>
      rw [visits_end hv] at h
      have hg : (Visit.mk f msg s).GoesOn := h _ (List.mem_singleton_self _)
      rw [Visit.GoesOn,hv] at hg
      cases hg
    | none =>
      rw [visits_on hv] at h ⊢
      rw [List.length_cons,List.length_cons,ih _ _ (fun v hm => h v (List.mem_cons_of_mem _ hm))]

theorem run_passage (fs : List (Filter σ)) (msg : Message) (s : σ) :
    (run fs msg s).1 = ((visits fs msg s).getLast?.bind Visit.ending?).getD
      (.through (Visit.lastSet msg (visits fs msg s))) := by
  induction fs generalizing msg s with
  | nil => rfl
  | cons f fs ih =>
    cases h : (Visit.mk f msg s).ending? with
    | some p =>
      rw [run_end (Visit.behind_end h),visits_end h]
      simp [h]
    | none =>
      rw [run_on (Visit.behind_on h),ih,visits_on h]
      generalize visits fs (Visit.lastSet msg [⟨f,msg,s⟩]) (Visit.mk f msg s).left = vs
      rw [Visit.lastSet_cons msg _ vs]
      cases hl : vs.getLast? with
      | none => simp [List.getLast?_cons,hl,h]
      | some v => simp [List.getLast?_cons,hl]

theorem run_notes (fs : List (Filter σ)) (msg : Message) (s : σ) :
    notes fs msg s = (visits fs msg s).filterMap Visit.notice? := by
  induction fs generalizing msg s with
  | nil => rfl
  | cons f fs ih =>
    cases h : (Visit.mk f msg s).ending? with
    | some p =>
      rw [notes,log_end (Visit.behind_end h),visits_end h]
      cases hn : (Visit.mk f msg s).notice? <;> simp [hn]
    | none =>
      rw [notes,log_on (Visit.behind_on h),visits_on h]
      cases hn : (Visit.mk f msg s).notice? <;> simp [hn,ih]

theorem run_failed {e : FilterError} (h : (run fs msg s).1 = .failed e) :
    ∃ v,(visits fs msg s).getLast? = some v ∧ v.turn.verdict = .failed e.cause ∧
      v.filter.name = e.filter := by
  rw [run_passage] at h
  cases hl : (visits fs msg s).getLast? with
  | none => simp [hl] at h
  | some v =>
    refine ⟨v,rfl,?_⟩
    cases hv : v.turn.verdict with
    | failed c =>
      obtain rfl : (⟨v.filter.name,c⟩ : FilterError) = e := by simpa [hl,Visit.ending?,hv] using h
      exact ⟨rfl,rfl⟩
    | crashed => simp [hl,Visit.ending?,hv] at h
    | done => by_cases hs : .stop ∈ v.turn.requests <;> simp [hl,Visit.ending?,hv,hs] at h

/-- Two pipelines in a row are the second behind the first, on the last message that was set and the
state that was left, unless a filter of the first has failed or stopped. The log tells no lies; the
filters in it are the first of the pipeline, all of them if each goes on, and each is met by what the
filters before it have made of the message and the state. The passage and the notes are those of the
log: the last filter alone decides on the end, and an override is noted once, behind the filter that
has set it. -/
theorem run_composes (fs gs : List (Filter σ)) (msg : Message) (s : σ) :
    (run (fs++gs) msg s =
      if ∀ v ∈ visits fs msg s,v.GoesOn then
        run gs (Visit.lastSet msg (visits fs msg s)) (run fs msg s).2
      else run fs msg s) ∧
    run (fs.map Filter.logged) msg { state := s } =
      ((run fs msg s).1,⟨(run fs msg s).2,visits fs msg s,notes fs msg s⟩) ∧
    (visits fs msg s).map Visit.filter = fs.take (visits fs msg s).length ∧
    ((∀ v ∈ visits fs msg s,v.GoesOn) → (visits fs msg s).length = fs.length) ∧
    (∀ (k : Nat) (v : Visit σ),(visits fs msg s)[k]? = some v →
      (∀ u ∈ (visits fs msg s).take k,u.GoesOn) ∧
        v.message = Visit.lastSet msg ((visits fs msg s).take k) ∧
        v.state = (run (fs.take k) msg s).2) ∧
    (run fs msg s).1 = ((visits fs msg s).getLast?.bind Visit.ending?).getD
      (.through (Visit.lastSet msg (visits fs msg s))) ∧
    (∀ e : FilterError,(run fs msg s).1 = .failed e →
      ∃ v,(visits fs msg s).getLast? = some v ∧ v.turn.verdict = .failed e.cause ∧
        v.filter.name = e.filter) ∧
    notes fs msg s = (visits fs msg s).filterMap Visit.notice? := by
  refine ⟨run_append fs gs msg s,?_,?_,visits_all fs msg s,fun k v hv => (visit_met fs msg s hv).2,
    run_passage fs msg s,fun e => run_failed,run_notes fs msg s⟩
  · simpa using run_logged fs msg { state := s }
  · refine List.ext_getElem? fun k => ?_
    rw [List.getElem?_map,List.getElem?_take]
    cases hv : (visits fs msg s)[k]? with
    | none => rw [if_neg (by simpa using hv)]; rfl
    | some v =>
      obtain ⟨hk,-⟩ := List.getElem?_eq_some_iff.mp hv
      rw [if_pos hk,(visit_met fs msg s hv).1]
      rfl

def overruled : List (Filter (Observed Rehearsal)) :=
  [⟨"finder",none,some (.discovery { name := "web" }),.record false⟩,
    ⟨"judge",none,some (.discovery { name := "db" }),.stop⟩,
    ⟨"breaker",none,none,.fail false (.stated "broken" [])⟩].map Probe.filter

def blank : Observed Rehearsal := { state := .ofParts (.ofParts "track" "") [] 100 64 0 }

theorem run_composes_overruled :
    (run (overruled++overruled) .devnull blank).1 = .stopped ∧
      (visits overruled .devnull blank).length = 2 ∧
      ((visits overruled .devnull blank)[1]?.map Visit.message = some (.discovery { name := "web" })) ∧
      notes overruled .devnull blank =
        [.superseded "finder" "container_discovery",.processingStopped "judge"] ∧
      (visits (overruled.take 1) .devnull blank).length = 1 ∧
      ∃ v,(visits overruled.reverse .devnull blank).getLast? = some v ∧ v.filter.name = "breaker" := by
  obtain ⟨happ,-,-,-,hmet,-,-,hnotes⟩ := run_composes overruled overruled .devnull blank
  obtain ⟨-,-,-,hall,-⟩ := run_composes (overruled.take 1) [] .devnull blank
  obtain ⟨-,-,-,-,-,-,hfail,-⟩ := run_composes overruled.reverse [] .devnull blank
  have hstop : ¬∀ v ∈ visits overruled .devnull blank,v.GoesOn := by decide
  refine ⟨?_,rfl,congrArg some (hmet 1 _ rfl).2.1,hnotes,hall (by decide),?_⟩
  · rw [happ,if_neg hstop]
    rfl
  · obtain ⟨v,hl,-,hn⟩ := hfail _ rfl
    exact ⟨v,hl,hn⟩

end Pipeline

end HostMeter
