import HostMeter.Pipeline
set_option autoImplicit false

/-! The pipeline one filter at a time. -/

namespace HostMeter

variable {σ : Type} [Journal σ]

/-- What a message goes on as behind a filter, or what has become of it there. -/
def Filter.pass (f : Filter σ) (msg : Message) (s : σ) : Except Passage Message × σ :=
  match f.handle msg s with
  | (turn,s) =>
    match turn.verdict with
    | .failed c => (.error (.failed ⟨f.name,c⟩),s)
    | .crashed => (.error .crashed,s)
    | .done =>
      let ctx := Context.ofRequests turn.requests
      if ctx.stopped then (.error .stopped,note (.processingStopped f.name) s)
      else match ctx.next with
        | some msg => (.ok msg,note (.superseded f.name msg.kind) s)
        | none => (.ok msg,s)

namespace Filter

variable {f : Filter σ} {msg : Message} {s t : σ}

theorem pass_on (h : f.handle msg s = ({},t)) : f.pass msg s = (.ok msg,t) := by
  simp [pass,h,Context.ofRequests]

theorem pass_stop (h : f.handle msg s = ({ requests := [.stop] },t)) :
    f.pass msg s = (.error .stopped,note (.processingStopped f.name) t) := by
  simp [pass,h,Context.ofRequests,Context.accept]

theorem pass_supersede {next : Message} (h : f.handle msg s = ({ requests := [.supersede next] },t)) :
    f.pass msg s = (.ok next,note (.superseded f.name next.kind) t) := by
  simp [pass,h,Context.ofRequests,Context.accept]

theorem pass_fail {c : Cause} (h : f.handle msg s = ({ verdict := .failed c },t)) :
    f.pass msg s = (.error (.failed ⟨f.name,c⟩),t) := by
  simp [pass,h]

theorem pass_crash (h : f.handle msg s = ({ verdict := .crashed },t)) :
    f.pass msg s = (.error .crashed,t) := by
  simp [pass,h]

theorem pass_keeps {P : σ → Prop} (hn : ∀ n s,P s → P (note n s)) (h : P (f.handle msg s).2) :
    P (f.pass msg s).2 := by
  rcases hh : f.handle msg s with ⟨turn,t⟩
  rw [hh] at h
  simp only [pass,hh]
  split
  · exact h
  · exact h
  · split
    · exact hn _ t h
    · split
      · exact hn _ t h
      · exact h

theorem filter_of_pass {e : FilterError} (h : (f.pass msg s).1 = .error (.failed e)) :
    e.filter = f.name := by
  rcases hh : f.handle msg s with ⟨turn,t⟩
  simp only [pass,hh] at h
  split at h
  · cases h
    rfl
  · cases h
  · split at h
    · cases h
    · split at h <;> cases h

end Filter

theorem Pipeline.runIn_cons (f : Filter σ) (fs : List (Filter σ)) (msg : Message) (s : σ) :
    runIn {} (f :: fs) msg s =
      match f.pass msg s with
      | (.error p,s) => (p,s)
      | (.ok msg,s) => runIn {} fs msg s := by
  rcases h : f.handle msg s with ⟨turn,t⟩
  cases hv : turn.verdict with
  | failed c => simp only [runIn,Filter.pass,h,hv]
  | crashed => simp only [runIn,Filter.pass,h,hv]
  | done =>
    have hctx : turn.requests.foldl Context.accept {} = Context.ofRequests turn.requests := rfl
    rcases hc : Context.ofRequests turn.requests with ⟨stopped,next⟩
    simp only [runIn,Filter.pass,h,hv,hctx,hc,Context.takeNext]
    cases stopped with
    | true => rfl
    | false => cases next <;> rfl

theorem Pipeline.runIn_keeps {P : σ → Prop} {fs : List (Filter σ)}
    (hf : ∀ f ∈ fs,∀ msg s,P s → P (f.pass msg s).2) (msg : Message) {s : σ} (h : P s) :
    P (runIn {} fs msg s).2 := by
  induction fs generalizing msg s with
  | nil => exact h
  | cons f fs ih =>
    have hp := hf f List.mem_cons_self msg s h
    rcases hr : f.pass msg s with ⟨a,t⟩
    rw [hr] at hp
    rw [runIn_cons,hr]
    cases a with
    | error p => exact hp
    | ok msg' => exact ih (fun f' hf' => hf f' (List.mem_cons_of_mem _ hf')) msg' hp

end HostMeter
