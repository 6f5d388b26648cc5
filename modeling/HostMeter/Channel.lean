set_option autoImplicit false

/-! Bounded queues between a producer and a consumer that never wait for each other. -/

namespace HostMeter

/-- A queue of at least one place. Either side may be gone; what is queued outlives its producer. -/
structure Channel (α : Type) where
  places : Nat
  queued : List α := []
  fed : Bool := true
  read : Bool := true
  deriving DecidableEq, Repr

inductive Offer
  | accepted
  | full
  | closed
  deriving DecidableEq, Repr

inductive Taken (α : Type)
  | item (a : α)
  | empty
  /-- Nothing is queued and nothing will be. -/
  | disconnected
  deriving DecidableEq, Repr

namespace Channel

variable {α : Type}

def ofPlaces (places : Nat) : Channel α := { places := max places 1 }

/-- A consumer that is gone weighs more than a queue that is full. -/
def offer (c : Channel α) (a : α) : Offer × Channel α :=
  if !c.read then (.closed,c)
  else if c.places ≤ c.queued.length then (.full,c)
  else (.accepted,{ c with queued := c.queued++[a] })

def take (c : Channel α) : Taken α × Channel α :=
  match c.queued with
  | a :: rest => (.item a,{ c with queued := rest })
  | [] => (if c.fed then .empty else .disconnected,c)

def close (c : Channel α) : Channel α := { c with read := false }

def cut (c : Channel α) : Channel α := { c with fed := false }

def drain (c : Channel α) : List α × Channel α := (c.queued,{ c with queued := [] })

theorem offer_queued_of_accepted {c d : Channel α} {a : α} (h : c.offer a = (.accepted,d)) :
    d.queued = c.queued++[a] := by
  unfold offer at h
  split at h
  · simp at h
  · split at h
    · simp at h
    · simp only [Prod.mk.injEq,true_and] at h
      exact h ▸ rfl

theorem take_queued_of_item {c d : Channel α} {a : α} (h : c.take = (.item a,d)) :
    c.queued = a :: d.queued := by
  unfold take at h
  split at h
  · next b rest hq =>
    simp only [Prod.mk.injEq,Taken.item.injEq] at h
    rw [hq,← h.1,← h.2]
  · split at h <;> simp at h

@[simp] theorem cut_queued (c : Channel α) : c.cut.queued = c.queued := rfl
@[simp] theorem close_queued (c : Channel α) : c.close.queued = c.queued := rfl

end Channel

end HostMeter
