import HostMeter.Proofs.Chain.Stirs
import HostMeter.Proofs.Table
set_option autoImplicit false

/-! Two counters are kept by the dispatcher alone: messages by their kind, and errors by the filter they
come from. No filter of the standard chain touches them. -/

namespace HostMeter

namespace Metrics

def tallies (m : Metrics) : Table Nat × Table Nat := (m.messages,m.filterErrors)

def messagesOf (kind : String) (m : Metrics) : Nat := (m.messages.get? kind).getD 0

def errorsTotal (m : Metrics) : Nat := m.filterErrors.values.sum

theorem messagesOf_of_tallies {m m' : Metrics} (h : m'.tallies = m.tallies) (kind : String) :
    m'.messagesOf kind = m.messagesOf kind := by
  have hm : m'.messages = m.messages := congrArg Prod.fst h
  rw [messagesOf,messagesOf,hm]

theorem errorsTotal_of_tallies {m m' : Metrics} (h : m'.tallies = m.tallies) :
    m'.errorsTotal = m.errorsTotal := by
  have hm : m'.filterErrors = m.filterErrors := congrArg Prod.snd h
  rw [errorsTotal,errorsTotal,hm]

theorem messagesOf_incMessages (kind kind' : String) (m : Metrics) :
    (m.incMessages kind').messagesOf kind =
      m.messagesOf kind+(decide (kind' = kind)).toNat := by
  by_cases h : kind' = kind
  · subst h
    simp [messagesOf,incMessages,bump]
  · have hne : kind ≠ kind' := fun he => h he.symm
    simp [messagesOf,incMessages,bump,h,hne]

theorem errorsTotal_incFilterErrors (filter : String) (m : Metrics) :
    (m.incFilterErrors filter).errorsTotal = m.errorsTotal+1 := by
  have hs := Table.sum_insert m.filterErrors filter ((m.filterErrors.get? filter).getD 0+1)
  simp only [errorsTotal,incFilterErrors,bump]
  omega

end Metrics

/-- What no step of a filter's work is written in: the books of the dispatcher and of the reporter. -/
structure Books (ρ : Type) where
  backend : ρ
  health : Health
  messages : Table Nat
  filterErrors : Table Nat
  reportsSent : Nat
  reportsFailed : Nat
  latencies : List Binary64

namespace Meter

variable {δ ρ α : Type} {m m' : Meter δ ρ}

def books (m : Meter δ ρ) : Books ρ where
  backend := m.backend
  health := m.health
  messages := m.metrics.messages
  filterErrors := m.metrics.filterErrors
  reportsSent := m.metrics.reportsSent
  reportsFailed := m.metrics.reportsFailed
  latencies := m.metrics.latencies

theorem books_note (n : Notice) (m : Meter δ ρ) : (note n m).books = m.books := rfl

theorem books_noteAll (ns : List Notice) (m : Meter δ ρ) : (noteAll ns m).books = m.books := by
  induction ns generalizing m with
  | nil => rfl
  | cons n ns ih =>
    rw [noteAll,List.foldl_cons]
    exact (ih (note n m)).trans (books_note n m)

theorem books_withGauges (tracked active : Int) (m : Meter δ ρ) :
    books { m with
      metrics := { m.metrics with containersTracked := tracked, collectionsActive := active } } =
        m.books := rfl

theorem books_countTracked (m : Meter δ ρ) : m.countTracked.books = m.books :=
  books_withGauges _ _ m

theorem books_register (c : Container) (m : Meter δ ρ) : (m.register c).2.books = m.books :=
  books_noteAll ((m.registry.register c).1.notices c.name)
    { m with registry := (m.registry.register c).2 }

theorem books_heed (e : Collector.Effect) (m : Meter δ ρ) : (m.heed e).books = m.books := by
  cases e with
  | started n r active => exact books_withGauges _ _ m
  | removed active => exact books_withGauges _ _ m
  | _ => rfl

theorem books_sampling (f : Collector → α × Collector × Collector.Effects) (m : Meter δ ρ) :
    (m.sampling f).2.books = m.books := by
  have hfold : ∀ (es : Collector.Effects) (l : Meter δ ρ),(es.foldl heed l).books = l.books := by
    intro es
    induction es with
    | nil => exact fun _ => rfl
    | cons e es ih => exact fun l => (ih (l.heed e)).trans (books_heed e l)
  exact hfold (f m.collector).2.2 { m with collector := (f m.collector).2.1 }

theorem Stir.books_eq (h : Stir m m') : m'.books = m.books := by
  cases h with
  | @enter c _ h => exact (books_countTracked _).trans (books_register c m)
  | collect i => exact books_sampling _ m
  | stop name => exact books_sampling _ m
  | stopAll => exact books_sampling _ m
  | instant t => exact books_sampling _ m
  | leave name => exact books_countTracked _
  | _ => rfl

theorem Stirs.books_eq (h : Stirs m m') : m'.books = m.books := h.part_eq fun _ _ => Stir.books_eq

def tallies (m : Meter δ ρ) : Table Nat × Table Nat := m.metrics.tallies

theorem tallies_of_books (h : m'.books = m.books) : m'.tallies = m.tallies :=
  congrArg (fun b : Books ρ => (b.messages,b.filterErrors)) h

theorem tallies_noteAll (ns : List Notice) (m : Meter δ ρ) : (noteAll ns m).tallies = m.tallies :=
  tallies_of_books (books_noteAll ns m)

theorem tallies_deliver [Backend ρ] (r : Report) (m : Meter δ ρ) :
    (m.deliver r).2.tallies = m.tallies := by
  rcases h : Backend.deliver r m.backend with ⟨o,backend⟩
  cases o with
  | done d =>
    simp only [deliver,h,tallies_noteAll]
    rfl
  | failed e =>
    simp only [deliver,h]
    rfl
  | crashed =>
    simp only [deliver,h]
    rfl

end Meter

/-- The filter leaves alone what the dispatcher counts. -/
def Filter.Untallied {δ ρ : Type} (f : Filter (Meter δ ρ)) : Prop :=
  ∀ msg m,(f.handle msg m).2.tallies = m.tallies

theorem Filter.pass_tallies {δ ρ : Type} {f : Filter (Meter δ ρ)} (hf : f.Untallied) (msg : Message)
    (m : Meter δ ρ) : (f.pass msg m).2.tallies = m.tallies :=
  f.pass_keeps (P := fun l => l.tallies = m.tallies) (fun _ _ h => h) (hf msg m)

namespace Chain

variable {δ ρ : Type}

theorem report_tallies [Backend ρ] (s : ChainSettings) (r : Report) (m : Meter δ ρ) :
    (report s r m).2.tallies = m.tallies := by
  have hd := m.tallies_deliver r
  rcases hm : m.deliver r with ⟨o,m'⟩
  rw [hm] at hd
  cases o with
  | done receipt =>
    simp only [report,hm,delivered]
    split <;> exact hd
  | failed e =>
    simp only [report,hm,refused]
    split <;> exact hd
  | crashed =>
    simp only [report,hm]
    exact hd

theorem standard_untallied [ContainerRuntime δ] [Backend ρ] (s : ChainSettings) :
    ∀ f ∈ (standard s : List (Filter (Meter δ ρ))),f.Untallied := by
  intro f hf msg m
  rcases standard_stirring s hf with rfl | ⟨-,hs⟩
  · cases msg with
    | report r => exact report_tallies s r m
    | _ => rfl
  · exact Meter.tallies_of_books (Meter.Stirs.books_eq (hs msg m))

end Chain

end HostMeter
