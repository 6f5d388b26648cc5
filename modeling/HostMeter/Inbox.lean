import HostMeter.Backend
set_option autoImplicit false

/-! A receiver in memory: it keeps every report and numbers its receipts from one. It serves to
rehearse the meter. -/

namespace HostMeter

structure Inbox where
  /-- Oldest first. -/
  reports : List Report := []
  failing : Bool := false
  deriving DecidableEq, Repr

namespace Inbox

def failure : String := "mock reporter set to fail"

def receipt (number : Nat) : Receipt := ⟨"event#"++toString number⟩

def accept (r : Report) (b : Inbox) : Delivery × Inbox :=
  let n := b.reports.length+1
  ({ receipt := receipt n, notices := [.reportTaken n r.eventType r.containerName] },
    { b with reports := b.reports++[r] })

instance : Backend Inbox where
  deliver r b :=
    if b.failing then (.failed (.unavailable failure),b)
    else (.done (b.accept r).1,(b.accept r).2)

end Inbox

end HostMeter
