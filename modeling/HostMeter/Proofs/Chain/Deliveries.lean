import HostMeter.Proofs.Chain.Counters
import HostMeter.Proofs.Chain.Course
set_option autoImplicit false

/-! What is written down of deliveries: the counters of the reporter, the time they took and how the
reporter fares. Only the reporter writes any of it, in three parts that others may come between: the
receiver answers, the answer is counted, and it shows in the health. -/

namespace HostMeter

abbrev Answer := Outcome DeliveryError Delivery

namespace Answer

def isAccepted : Answer → Bool
  | .done _ => true
  | _ => false

def isRefused : Answer → Bool
  | .failed _ => true
  | _ => false

/-- What an answer makes of the reporter. -/
def shown? : Answer → Option (Status × Option String)
  | .done _ => some (.healthy,none)
  | .failed e => some (.degraded,some ("last report failed: "++e.message))
  | .crashed => none

end Answer

structure Answering (ρ : Type) where
  inner : ρ
  answers : List Answer := []

variable {δ ρ : Type}

namespace Answering

instance [Backend ρ] : Backend (Answering ρ) where
  deliver r b :=
    ((Backend.deliver r b.inner).1,
      ⟨(Backend.deliver r b.inner).2,b.answers++[(Backend.deliver r b.inner).1]⟩)

theorem deliver_eq [Backend ρ] {r : Report} {b : Answering ρ} {a : Answer} {inner : ρ}
    (h : Backend.deliver r b.inner = (a,inner)) :
    Backend.deliver r b = (a,⟨inner,b.answers++[a]⟩) := by
  show (_,Answering.mk _ _) = _
  rw [h]

end Answering

/-- All that is written down of deliveries. -/
structure Docket where
  answers : List Answer
  sent : Nat
  timed : Nat
  failed : Nat
  /-- Errors that were counted against the reporter. -/
  errors : Nat
  /-- How the reporter fares, and why. -/
  shown : Option (Status × Option String)
  deriving DecidableEq, Repr

def Health.shown (name : String) (h : Health) : Option (Status × Option String) :=
  (h.component? name).map fun c => (c.status,c.message)

theorem Health.shown_update (name : String) (c : ComponentHealth) (h : Health) :
    (h.update name c).shown name = some (c.status,c.message) := by
  simp [shown,component?,update]

def Metrics.errorsOf (filter : String) (m : Metrics) : Nat := (m.filterErrors.get? filter).getD 0

namespace Meter

def docket (m : Meter δ (Answering ρ)) : Docket where
  answers := m.backend.answers
  sent := m.metrics.reportsSent
  timed := m.metrics.latencies.length
  failed := m.metrics.reportsFailed
  errors := m.metrics.errorsOf "reporter"
  shown := m.health.shown Health.reporter

theorem docket_of_books {m m' : Meter δ (Answering ρ)} (h : m'.books = m.books) :
    m'.docket = m.docket :=
  congrArg (fun b : Books (Answering ρ) => Docket.mk b.backend.answers b.reportsSent
    b.latencies.length b.reportsFailed ((b.filterErrors.get? "reporter").getD 0)
    (b.health.shown Health.reporter)) h

end Meter

namespace Chain

variable {s : ChainSettings}

def counts (s : ChainSettings) (r : Report) : Answer → Meter δ ρ → Meter δ ρ
  | .done d,m =>
    note (.reportAccepted s.meterId r.eventType r.containerName d.receipt.text)
      { m with metrics := m.metrics.observeReportSent noTime }
  | .failed e,m =>
    note (.reportFailed s.meterId r.eventType r.containerName e.message)
      { m with metrics := m.metrics.incReportsFailed }
  | .crashed,m => m

def shows (s : ChainSettings) : Answer → Meter δ ρ → Meter δ ρ
  | .done _,m =>
    note (.processingStopped "reporter")
      (if s.reportHealth then { m with health := m.health.setHealthy Health.reporter m.clock } else m)
  | .failed e,m =>
    if s.reportHealth then
      { m with
        health := m.health.setDegraded Health.reporter ("last report failed: "++e.message) m.clock }
    else m
  | .crashed,m => m

/-- With nobody in between, the three parts are the reporter. -/
theorem pass_report [Backend ρ] (s : ChainSettings) (r : Report) (m : Meter δ ρ) :
    (reporter s).pass (.report r) m =
      (.error (.ofDelivery (Backend.deliver r m.backend).1),
        shows s (Backend.deliver r m.backend).1
          (counts s r (Backend.deliver r m.backend).1 (m.deliver r).2)) := by
  rcases hd : Backend.deliver r m.backend with ⟨a,b⟩
  cases a with
  | done d =>
    have hm : m.deliver r = (.done d.receipt,Meter.noteAll d.notices { m with backend := b }) := by
      simp only [Meter.deliver,hd]
    have hh : (reporter s).handle (.report r) m =
        ({ requests := [.stop] },delivered s r d.receipt (m.deliver r).2) := by
      simp only [reporter,report,hm]
    exact Filter.pass_stop hh
  | failed e =>
    have hm : m.deliver r = (.failed e,{ m with backend := b }) := by simp only [Meter.deliver,hd]
    have hh : (reporter s).handle (.report r) m =
        ({ verdict := .failed (.reporting e) },refused s r e (m.deliver r).2) := by
      simp only [reporter,report,hm]
    exact Filter.pass_fail hh
  | crashed =>
    have hm : m.deliver r = (.crashed,{ m with backend := b }) := by simp only [Meter.deliver,hd]
    have hh : (reporter s).handle (.report r) m = ({ verdict := .crashed },(m.deliver r).2) := by
      simp only [reporter,report,hm]
    exact Filter.pass_crash hh

theorem deliver_docket [Backend ρ] (r : Report) (m : Meter δ (Answering ρ)) :
    (m.deliver r).2.docket =
      { m.docket with answers := m.docket.answers++[(Backend.deliver r m.backend).1] } := by
  rcases hd : Backend.deliver r m.backend.inner with ⟨a,inner⟩
  have hb := Answering.deliver_eq hd
  rw [hb]
  cases a with
  | done d =>
    simp only [Meter.deliver,hb]
    exact Meter.docket_of_books (Meter.books_noteAll d.notices _)
  | failed e =>
    simp only [Meter.deliver,hb]
    rfl
  | crashed =>
    simp only [Meter.deliver,hb]
    rfl

theorem counts_docket (s : ChainSettings) (r : Report) (a : Answer) (m : Meter δ (Answering ρ)) :
    (counts s r a m).docket =
      { m.docket with
        sent := m.docket.sent+a.isAccepted.toNat
        timed := m.docket.timed+a.isAccepted.toNat
        failed := m.docket.failed+a.isRefused.toNat } := by
  cases a <;> rfl

theorem shows_docket (hs : s.reportHealth = true) (a : Answer) (m : Meter δ (Answering ρ)) :
    (shows s a m).docket = { m.docket with shown := a.shown?.or m.docket.shown } := by
  cases a with
  | done d =>
    simp only [shows,hs,if_true]
    exact congrArg (fun shown => Docket.mk _ _ _ _ _ shown) (Health.shown_update _ _ m.health)
  | failed e =>
    simp only [shows,hs,if_true]
    exact congrArg (fun shown => Docket.mk _ _ _ _ _ shown) (Health.shown_update _ _ m.health)
  | crashed => rfl

theorem pass_docket [ContainerRuntime δ] [Backend ρ] {f : Filter (Meter δ (Answering ρ))}
    (hf : f ∈ standard s) {msg : Message} (hr : f.name = "reporter" → ∀ r,msg ≠ .report r)
    (m : Meter δ (Answering ρ)) :
    (f.pass msg m).2.docket = m.docket ∧
      ∀ c,(f.pass msg m).1 ≠ .error (.failed ⟨"reporter",c⟩) := by
  rcases standard_stirring s hf with rfl | ⟨hn,hst⟩
  · cases msg with
    | report r => exact absurd rfl (hr rfl r)
    | _ =>
      refine ⟨rfl,fun c => ?_⟩
      rw [Filter.pass_on rfl]
      simp
  · refine ⟨Meter.docket_of_books (hst.pass msg m).books_eq,fun c hc => hn ?_⟩
    exact (Filter.filter_of_pass hc).symm

end Chain

end HostMeter
