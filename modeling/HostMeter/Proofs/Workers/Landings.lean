import HostMeter.Proofs.Workers.Clerks
set_option autoImplicit false

/-! Messages that have met their fates, and what a step of a worker adds to the books about them. What is
written down in several steps is left to be added in between. -/

namespace HostMeter

namespace Passage

def isProcessed : Passage → Bool
  | .through _ | .stopped => true
  | _ => false

def isFailed : Passage → Bool
  | .failed _ => true
  | _ => false

def isRefused : Passage → Bool
  | .failed e => e.filter = "reporter"
  | _ => false

theorem isRefused_ofDelivery (a : Answer) : isRefused (.ofDelivery a) = a.isRefused := by
  cases a <;> rfl

end Passage

/-- A message that has met its fate, with the receiver's answer if its report was handed over. -/
structure Landing where
  message : Message
  fate : Passage
  answer : Option Answer
  deriving DecidableEq, Repr

namespace Landing

/-- The fate is what the answer says, or there was none and it is not the reporter that failed. -/
def Agrees (l : Landing) : Prop :=
  match l.answer with
  | some a => l.fate = .ofDelivery a
  | none => l.fate.isRefused = false

def answered (ls : List Landing) : List Answer := ls.filterMap (·.answer)

theorem answered_append (ls ls' : List Landing) : answered (ls++ls') = answered ls++answered ls' :=
  List.filterMap_append

theorem Agrees.isRefused {l : Landing} (h : l.Agrees) :
    l.fate.isRefused = l.answer.any Answer.isRefused := by
  obtain ⟨m,p,a⟩ := l
  cases a with
  | some a =>
    have hp : p = .ofDelivery a := h
    rw [hp]
    exact Passage.isRefused_ofDelivery a
  | none => exact h

theorem countP_isRefused {ls : List Landing} (h : ∀ l ∈ ls,l.Agrees) :
    ls.countP (·.fate.isRefused) = (answered ls).countP Answer.isRefused := by
  rw [answered,List.countP_filterMap]
  refine List.countP_congr fun l hl => ?_
  rw [(h l hl).isRefused]
  cases l.answer <;> simp

end Landing

variable {δ ρ : Type}

namespace Flight

variable [ContainerRuntime δ] [Backend ρ] {s : ChainSettings} {g : Flight}

theorem step_docket {m : Message}
    (hd : (Desk.busy m g).handing? (Chain.standard s : List (Filter (Meter δ (Answering ρ)))) = none)
    (hg : g.fate = none) (m' : Meter δ (Answering ρ)) :
    (g.step (Chain.standard s) m').2.docket = m'.docket ∧
      ∀ p,(g.step (Chain.standard s) m').1.fate = some p → p.isRefused = false := by
  cases hf : (Chain.standard s : List (Filter (Meter δ (Answering ρ))))[g.passed]? with
  | none =>
    rw [step_through hg hf]
    refine ⟨rfl,?_⟩
    rintro p ⟨⟩
    rfl
  | some f =>
    rw [step_pass hg hf]
    obtain ⟨hk,hn⟩ := Chain.pass_docket (List.mem_of_getElem? hf)
      (Desk.not_report_of_handing? hd hg hf) m'
    refine ⟨hk,fun p hp => ?_⟩
    cases hp' : (f.pass g.message m').1 with
    | ok msg =>
      rw [hp'] at hp
      exact absurd (hg.symm.trans hp) (by simp)
    | error q =>
      rw [hp'] at hp hn
      obtain rfl : q = p := Option.some.inj hp
      cases q with
      | failed e =>
        refine decide_eq_false fun he => hn e.cause ?_
        rw [← he]
      | _ => rfl

end Flight

namespace Desk

/-- The message that a step of a worker brings to its fate without a report. -/
def landing? (fs : List (Filter (Meter δ ρ))) (h : Hall (Meter δ ρ)) : Desk → Option Landing
  | .busy m g =>
    match g.fate,(g.step fs h.state).1.fate with
    | none,some p => some ⟨m,p,none⟩
    | _,_ => none
  | _ => none

def uncounted : Desk → Option Passage
  | .busy _ g => g.fate
  | _ => none

def owes (q : Passage → Bool) (d : Desk) : Bool := d.uncounted.any q

def blames : Desk → Bool
  | .busy _ g => g.fate.any Passage.isRefused
  | .failing _ e => e.filter = "reporter"
  | _ => false

end Desk

namespace Clerk

def held : Clerk → Option Answer
  | .answered _ _ _ a => some a
  | .counted _ _ a => some a
  | .desk _ => none

def uncounted : Clerk → Option Answer
  | .answered _ _ _ a => some a
  | _ => none

def owes (q : Passage → Bool) : Clerk → Bool
  | .desk d => d.owes q
  | _ => false

def blames : Clerk → Bool
  | .desk d => d.blames
  | _ => false

variable [ContainerRuntime δ] [Backend ρ]

def landing? (s : ChainSettings) (h : Hall (Meter δ ρ)) : Clerk → Option Landing
  | .desk d =>
    match d.handing? (Chain.standard s : List (Filter (Meter δ ρ))) with
    | some _ => none
    | none => d.landing? (Chain.standard s) h
  | .answered _ _ _ _ => none
  | .counted m _ a => some ⟨m,.ofDelivery a,some a⟩

/-- What a step of a worker adds to the books, with what it leaves to be added: the answers that the
receiver gives in it, and the messages that land. -/
structure Adds (h : Hall (Meter δ (Answering ρ))) (c c' : Clerk) (h' : Hall (Meter δ (Answering ρ)))
    (as : List Answer) (ls : List Landing) : Prop where
  agree : ∀ l ∈ ls,l.Agrees
  apart : as = [] ∨ ls = []
  answers : h'.state.docket.answers = h.state.docket.answers++as
  held : (c'.held.toList++Landing.answered ls).Perm (c.held.toList++as)
  sent : h'.state.docket.sent+c'.uncounted.toList.countP Answer.isAccepted =
    h.state.docket.sent+c.uncounted.toList.countP Answer.isAccepted+as.countP Answer.isAccepted
  timed : h'.state.docket.timed+c'.uncounted.toList.countP Answer.isAccepted =
    h.state.docket.timed+c.uncounted.toList.countP Answer.isAccepted+as.countP Answer.isAccepted
  refused : h'.state.docket.failed+c'.uncounted.toList.countP Answer.isRefused =
    h.state.docket.failed+c.uncounted.toList.countP Answer.isRefused+as.countP Answer.isRefused
  processed : h'.dispatcher.processed+(c'.owes Passage.isProcessed).toNat =
    h.dispatcher.processed+(c.owes Passage.isProcessed).toNat+ls.countP (·.fate.isProcessed)
  failed : h'.dispatcher.failed+(c'.owes Passage.isFailed).toNat =
    h.dispatcher.failed+(c.owes Passage.isFailed).toNat+ls.countP (·.fate.isFailed)
  errors : h'.state.docket.errors+c'.blames.toNat =
    h.state.docket.errors+c.blames.toNat+ls.countP (·.fate.isRefused)
  shown : h'.state.docket.shown =
    ((Landing.answered ls).filterMap Answer.shown?).getLast?.or h.state.docket.shown

variable {s : ChainSettings}

omit [ContainerRuntime δ] [Backend ρ] in
theorem errors_incFilterErrors (e : FilterError) (m : Metrics) :
    (m.incFilterErrors e.filter).errorsOf "reporter" =
      m.errorsOf "reporter"+(decide (e.filter = "reporter")).toNat := by
  by_cases he : e.filter = "reporter"
  · simp [Metrics.errorsOf,Metrics.incFilterErrors,Metrics.bump,he]
  · have hne : "reporter" ≠ e.filter := fun h => he h.symm
    simp [Metrics.errorsOf,Metrics.incFilterErrors,Metrics.bump,he,hne]

omit [ContainerRuntime δ] [Backend ρ] in
theorem adds_nothing {h h' : Hall (Meter δ (Answering ρ))} {d d' : Desk}
    (hs : h'.state.docket = h.state.docket) (hd : h'.dispatcher.processed = h.dispatcher.processed)
    (hf : h'.dispatcher.failed = h.dispatcher.failed) (hu : d'.uncounted = d.uncounted)
    (hb : d'.blames = d.blames) : Adds h (.desk d) (.desk d') h' [] [] := by
  have ho : ∀ q,d'.owes q = d.owes q := fun q => congrArg (Option.any q) hu
  refine ⟨by simp,.inl rfl,?_,.refl _,?_,?_,?_,?_,?_,?_,?_⟩
  · rw [hs,List.append_nil]
  · rw [hs]
    rfl
  · rw [hs]
    rfl
  · rw [hs]
    rfl
  · simp [owes,hd,ho]
  · simp [owes,hf,ho]
  · simp [blames,hs,hb]
  · rw [hs]
    rfl

theorem adds_flies {m : Message} {g : Flight} {h : Hall (Meter δ (Answering ρ))} (hg : g.fate = none)
    (hd : (Desk.busy m g).handing? (Chain.standard s : List (Filter (Meter δ (Answering ρ)))) = none) :
    Adds h (.desk (.busy m g)) (.desk (.busy m (g.step (Chain.standard s) h.state).1))
      { h with state := (g.step (Chain.standard s) h.state).2 } []
      ((Desk.busy m g).landing? (Chain.standard s) h).toList := by
  obtain ⟨hk,hn⟩ := Flight.step_docket hd hg h.state
  cases hf : (g.step (Chain.standard s) h.state).1.fate with
  | none =>
    have hl : (Desk.busy m g).landing? (Chain.standard s) h = none := by
      simp only [Desk.landing?,hg,hf]
    rw [hl]
    refine adds_nothing hk rfl rfl ?_ ?_
    · simp only [Desk.uncounted,hg,hf]
    · simp only [Desk.blames,hg,hf]
  | some p =>
    have hl : (Desk.busy m g).landing? (Chain.standard s) h = some ⟨m,p,none⟩ := by
      simp only [Desk.landing?,hg,hf]
    rw [hl]
    refine ⟨?_,.inl rfl,?_,.refl _,?_,?_,?_,?_,?_,?_,?_⟩
    · intro l hl
      rw [List.mem_singleton.mp hl]
      exact hn p hf
    · exact (congrArg Docket.answers hk).trans (List.append_nil _).symm
    · exact congrArg Docket.sent hk
    · exact congrArg Docket.timed hk
    · exact congrArg Docket.failed hk
    · cases hp : p.isProcessed <;> simp [owes,Desk.owes,Desk.uncounted,hg,hf,hp]
    · cases hp : p.isFailed <;> simp [owes,Desk.owes,Desk.uncounted,hg,hf,hp]
    · simp [blames,Desk.blames,hg,hf,hn p hf,congrArg Docket.errors hk]
    · exact congrArg Docket.shown hk

theorem adds_goes {h h' : Hall (Meter δ (Answering ρ))} {d d' : Desk} {e : Option Entry}
    (hd : d.handing? (Chain.standard s : List (Filter (Meter δ (Answering ρ)))) = none)
    (g : Desk.Goes (Chain.standard s) h d d' h' e) :
    Adds h (.desk d) (.desk d') h' [] (d.landing? (Chain.standard s) h).toList := by
  cases g with
  | flies m hg => exact adds_flies hg hd
  | @lands m g p hg =>
    have hl : (Desk.busy m g).landing? (Chain.standard s) h = none := by
      simp only [Desk.landing?,hg]
    rw [hl]
    refine ⟨by simp,.inl rfl,(List.append_nil _).symm,.refl _,rfl,rfl,rfl,?_,?_,?_,rfl⟩
    · cases p <;> simp [Desk.finish,owes,Desk.owes,Desk.uncounted,hg,Passage.isProcessed]
    · cases p <;> simp [Desk.finish,owes,Desk.owes,Desk.uncounted,hg,Passage.isFailed]
    · cases p <;> simp [Desk.finish,blames,Desk.blames,hg,Passage.isRefused]
  | tells m e =>
    exact ⟨by simp [Desk.landing?],.inl rfl,(List.append_nil _).symm,.refl _,rfl,rfl,rfl,rfl,rfl,
      errors_incFilterErrors e h.state.metrics,rfl⟩
  | _ => exact adds_nothing rfl rfl rfl rfl rfl

theorem adds_step (hs : s.reportHealth = true) (c : Clerk) (h : Hall (Meter δ (Answering ρ))) :
    ∃ as,Adds h c (c.step s h).1 (c.step s h).2 as (c.landing? s h).toList := by
  cases c with
  | desk d =>
    cases hd : d.handing? (Chain.standard s : List (Filter (Meter δ (Answering ρ)))) with
    | none =>
      have hl : landing? s h (.desk d) = d.landing? (Chain.standard s) h := by
        simp only [landing?,hd]
      rw [step_desk hd,hl]
      exact ⟨[],adds_goes hd (Desk.step_goes (Chain.standard s) d h)⟩
    | some x =>
      obtain ⟨m,g,r⟩ := x
      have hl : landing? s h (.desk d) = none := by simp only [landing?,hd]
      have hk := Chain.deliver_docket r h.state
      have he : (h.state.deliver r).2.docket.errors = h.state.docket.errors :=
        (congrArg Docket.errors hk :)
      obtain ⟨rfl,hg,-⟩ := Desk.handing?_cases hd
      rw [step_handing hd,hl]
      refine ⟨[(Backend.deliver r h.state.backend).1],by simp,.inr rfl,(congrArg Docket.answers hk :),
        .refl _,?_,?_,?_,?_,?_,?_,(congrArg Docket.shown hk :)⟩
      · exact congrArg (·+_) (congrArg Docket.sent hk :)
      · exact congrArg (·+_) (congrArg Docket.timed hk :)
      · exact congrArg (·+_) (congrArg Docket.failed hk :)
      · simp [owes,Desk.owes,Desk.uncounted,hg]
      · simp [owes,Desk.owes,Desk.uncounted,hg]
      · simp [blames,Desk.blames,hg,he]
  | answered m g r a =>
    have hk := Chain.counts_docket s r a h.state
    have hone : ∀ q : Answer → Bool,[a].countP q = (q a).toNat := fun q => by
      cases hq : q a <;> simp [hq]
    refine ⟨[],by simp [landing?],.inl rfl,?_,.refl _,?_,?_,?_,rfl,rfl,?_,(congrArg Docket.shown hk :)⟩
    · exact (congrArg Docket.answers hk :).trans (List.append_nil _).symm
    · exact (congrArg Docket.sent hk :).trans (congrArg _ (hone _).symm)
    · exact (congrArg Docket.timed hk :).trans (congrArg _ (hone _).symm)
    · exact (congrArg Docket.failed hk :).trans (congrArg _ (hone _).symm)
    · exact (congrArg Docket.errors hk :)
  | counted m g a =>
    have hk := Chain.shows_docket hs a h.state
    have hl : (landing? s h (.counted m g a)).toList = [⟨m,.ofDelivery a,some a⟩] := rfl
    rw [hl]
    refine ⟨[],?_,.inl rfl,?_,.refl _,?_,?_,?_,?_,?_,?_,?_⟩
    · intro l hl
      rw [List.mem_singleton.mp hl]
      rfl
    · exact (congrArg Docket.answers hk :).trans (List.append_nil _).symm
    · exact (congrArg Docket.sent hk :)
    · exact (congrArg Docket.timed hk :)
    · exact (congrArg Docket.failed hk :)
    · cases a <;> rfl
    · cases a <;> rfl
    · have he : (Chain.shows s a h.state).docket.errors = h.state.docket.errors :=
        (congrArg Docket.errors hk :)
      cases a <;> simp [step,blames,Desk.blames,Flight.land,Passage.ofDelivery,Passage.isRefused,he]
    · cases a <;> exact (congrArg Docket.shown hk :)

end Clerk

end HostMeter
