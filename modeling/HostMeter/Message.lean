import HostMeter.Report
set_option autoImplicit false

/-! What travels through the pipeline. -/

namespace HostMeter

inductive Message
  | discovery (c : Container)
  | change (c : StateChange)
  | sample (s : Sample)
  | report (r : Report)
  | devnull
  deriving DecidableEq, Repr

def Message.kind : Message → String
  | .discovery _ => "container_discovery"
  | .change _ => "state_change"
  | .sample _ => "container_sample"
  | .report _ => "send_report"
  | .devnull => "devnull"

/-- The contents of a message as a value; there is none for one that carries nothing. -/
def Message.body : Message → Json
  | .discovery c => Container.codec.write c
  | .change c => StateChange.codec.write c
  | .sample s => Sample.codec.write s
  | .report r => Report.codec.write r
  | .devnull => .null

/-- A word of 128 bits that says in its own digits that it was drawn at random. -/
structure Identity where
  word : Nat
  deriving DecidableEq, Repr

namespace Identity

def versionUnit : Nat := 75557863725914323419136

/-- Spends a drawn number on an identity: its lowest 76 bits below the version, the rest above. -/
def ofDraw (n : Nat) : Identity := ⟨n/versionUnit*(16*versionUnit)+4*versionUnit+n%versionUnit⟩

def version (i : Identity) : Nat := i.word/versionUnit%16

theorem version_ofDraw (n : Nat) : (ofDraw n).version = 4 := by
  simp only [ofDraw,version,versionUnit]
  omega

theorem ofDraw_injective {m n : Nat} (h : ofDraw m = ofDraw n) : m = n := by
  have hw : (ofDraw m).word = (ofDraw n).word := congrArg word h
  simp only [ofDraw,versionUnit] at hw
  omega

end Identity

/-- A message as it is handed over: two with the same contents are still different messages. -/
structure Envelope where
  id : Identity
  message : Message
  deriving DecidableEq, Repr

end HostMeter
