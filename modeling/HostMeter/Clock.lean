set_option autoImplicit false

/-! A clock that only moves when told to, and stops at every instant something is due. -/

namespace HostMeter.Clock

variable {σ : Type}

def nextStop (due : Option Nat) (now target : Nat) : Nat := min target (max (now+1) (due.getD target))

theorem nextStop_gt (due : Option Nat) {now target : Nat} (h : now < target) :
    now < nextStop due now target := by
  unfold nextStop
  omega

/-- Acts at every instant at which the state has something due, and at the target. -/
def runTo (due : σ → Option Nat) (act : Nat → σ → σ) (target now : Nat) (s : σ) : σ :=
  if h : now < target then
    have := nextStop_gt (due s) h
    runTo due act target (nextStop (due s) now target) (act (nextStop (due s) now target) s)
  else s
termination_by target-now

theorem runTo_induction {due : σ → Option Nat} {act : Nat → σ → σ} {P : σ → Prop}
    (step : ∀ t s, P s → P (act t s)) (target now : Nat) (s : σ) (h : P s) :
    P (runTo due act target now s) := by
  fun_induction runTo due act target now s with
  | case1 now s _ _ ih => exact ih (step _ _ h)
  | case2 => exact h

end HostMeter.Clock
