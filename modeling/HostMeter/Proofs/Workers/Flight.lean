import HostMeter.Proofs.Chain.Run
import HostMeter.Proofs.Workers.Team
set_option autoImplicit false

/-! Several workers on one chain. Each takes its message through one filter at a time, and the filters
of different workers come in any order. A worker that is left alone sends its message as the pipeline
does. -/

namespace HostMeter

variable {σ : Type} [Journal σ]

/-- A message on its way through a chain: the filters it has passed, and its fate when it has met it. -/
structure Flight where
  message : Message
  passed : Nat := 0
  fate : Option Passage := none
  deriving DecidableEq, Repr

namespace Flight

variable {fs : List (Filter σ)} {g : Flight} {s : σ}

def land (g : Flight) : Except Passage Message → Flight
  | .ok message => { g with message, passed := g.passed+1 }
  | .error p => { g with fate := some p }

def step (fs : List (Filter σ)) (g : Flight) (s : σ) : Flight × σ :=
  match g.fate,fs[g.passed]? with
  | some _,_ => (g,s)
  | none,none => ({ g with fate := some (.through g.message) },s)
  | none,some f => (g.land (f.pass g.message s).1,(f.pass g.message s).2)

theorem step_landed (h : g.fate ≠ none) : step fs g s = (g,s) := by
  cases hf : g.fate with
  | none => exact absurd hf h
  | some p => simp only [step,hf]

theorem step_through (h : g.fate = none) (hf : fs[g.passed]? = none) :
    step fs g s = ({ g with fate := some (.through g.message) },s) := by
  simp only [step,h,hf]

theorem step_pass {f : Filter σ} (h : g.fate = none) (hf : fs[g.passed]? = some f) :
    step fs g s = (g.land (f.pass g.message s).1,(f.pass g.message s).2) := by
  simp only [step,h,hf]

theorem alone_runIn {rest : List (Filter σ)} (h : g.fate = none) (hr : fs.drop g.passed = rest) :
    (Team.alone (step fs) (rest.length+1) g s).1.fate =
        some (Pipeline.runIn {} rest g.message s).1 ∧
      (Team.alone (step fs) (rest.length+1) g s).2 = (Pipeline.runIn {} rest g.message s).2 := by
  induction rest generalizing g s with
  | nil =>
    have hf : fs[g.passed]? = none := List.getElem?_eq_none (List.drop_eq_nil_iff.mp hr)
    rw [List.length_nil,Team.alone_step (step_through h hf)]
    exact ⟨rfl,rfl⟩
  | cons f rest ih =>
    have hf : fs[g.passed]? = some f := by
      rw [← List.head?_drop,hr]
      rfl
    have hrest : fs.drop (g.passed+1) = rest := by
      rw [← List.tail_drop,hr]
      rfl
    rw [List.length_cons,Team.alone_step (step_pass h hf),Pipeline.runIn_cons]
    rcases f.pass g.message s with ⟨a,t⟩
    cases a with
    | ok msg => exact ih (g := g.land (.ok msg)) h hrest
    | error p =>
      rw [Team.alone_idle (step_landed (by simp [land]))]
      exact ⟨rfl,rfl⟩

end Flight

namespace Meter

variable {δ ρ : Type} [ContainerRuntime δ] [Backend ρ]

/-- All that a step in the standard chain can come to. -/
theorem step_cases (s : ChainSettings) (g : Flight) (m : Meter δ ρ) :
    (g.fate ≠ none ∧ Flight.step (Chain.standard s) g m = (g,m)) ∨
      (g.fate = none ∧ 8 ≤ g.passed ∧
        Flight.step (Chain.standard s) g m = ({ g with fate := some (.through g.message) },m)) ∨
      (g.fate = none ∧ g.passed < 8 ∧
        (Flight.step (Chain.standard s) g m).1 =
          g.land (m.core.pass s.meterId g.passed g.message).1 ∧
        (Flight.step (Chain.standard s) g m).2.core =
          (m.core.pass s.meterId g.passed g.message).2) := by
  by_cases hf : g.fate = none
  · right
    by_cases hp : g.passed < 8
    · obtain ⟨f,hget⟩ : ∃ f : Filter (Meter δ ρ),(Chain.standard s)[g.passed]? = some f :=
        ⟨_,List.getElem?_eq_getElem hp⟩
      refine .inr ⟨hf,hp,?_⟩
      rw [Flight.step_pass hf hget,← Chain.passed_standard hget g.message m]
      exact ⟨rfl,rfl⟩
    · have hnone : (Chain.standard s : List (Filter (Meter δ ρ)))[g.passed]? = none :=
        List.getElem?_eq_none (by simpa [Chain.standard] using hp)
      exact .inl ⟨hf,by omega,Flight.step_through hf hnone⟩
  · exact .inl ⟨hf,Flight.step_landed hf⟩

theorem alone_send (s : ChainSettings) (msg : Message) (m : Meter δ ρ) :
    (Team.alone (Flight.step (Chain.standard s)) 9 { message := msg } m).1.fate =
        some (m.send s msg).1 ∧
      (Team.alone (Flight.step (Chain.standard s)) 9 { message := msg } m).2 = (m.send s msg).2 :=
  Flight.alone_runIn (g := { message := msg }) rfl rfl

end Meter

abbrev Traffic (σ : Type) := Team Flight σ

def Traffic.ofMessages (ms : List Message) (s : σ) : Traffic σ :=
  ⟨s,ms.map fun msg => { message := msg }⟩

/-- One of the workers goes on by a filter, or something goes on around them. -/
inductive Move (δ ρ : Type)
  | step (i : Nat)
  | incident (o : Incident δ ρ)

namespace Move

variable {δ ρ : Type} [ContainerRuntime δ]

def Valid [FaithfulRuntime δ] : Move δ ρ → Prop
  | .step _ => True
  | .incident o => o.Valid

def take [Backend ρ] (s : ChainSettings) :
    Move δ ρ → Traffic (Watched δ ρ) → Traffic (Watched δ ρ)
  | .step i,t => t.step (Flight.step (Chain.standard s)) i
  | .incident o,t => { t with state := o.take t.state }

end Move

namespace Traffic

variable {δ ρ : Type} [ContainerRuntime δ] [Backend ρ]

def run (s : ChainSettings) (moves : List (Move δ ρ)) (t : Traffic (Watched δ ρ)) :
    Traffic (Watched δ ρ) :=
  moves.foldl (fun t x => x.take s t) t

theorem run_cons (s : ChainSettings) (x : Move δ ρ) (moves : List (Move δ ρ))
    (t : Traffic (Watched δ ρ)) : run s (x :: moves) t = run s moves (x.take s t) := rfl

end Traffic

end HostMeter
