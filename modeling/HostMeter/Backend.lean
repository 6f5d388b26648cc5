import HostMeter.ContainerRuntime
import HostMeter.Report
set_option autoImplicit false

/-! What the meter asks of whoever receives its reports, and how that can go wrong. -/

namespace HostMeter

inductive DeliveryError
  | invalidEndpoint (text : String)
  | invalidMethod (text : String)
  | invalidHeader (text : String)
  | invalidReceipt
  | unexpectedStatus (text : String)
  | unavailable (reason : String)
  | transport (text : String)
  deriving DecidableEq, Repr

namespace DeliveryError

def message : DeliveryError → String
  | .invalidEndpoint t => "invalid endpoint url: "++t
  | .invalidMethod t => "invalid http method: "++t
  | .invalidHeader t => "invalid header "++t
  | .invalidReceipt => "received an invalid or empty receipt"
  | .unexpectedStatus t => "unexpected response: "++t
  | .unavailable r => "reporting backend unavailable: "++r
  | .transport t => "error sending report: "++t

def kind : DeliveryError → String
  | .invalidEndpoint _ => "InvalidEndpoint"
  | .invalidMethod _ => "InvalidMethod"
  | .invalidHeader _ => "InvalidHeader"
  | .invalidReceipt => "InvalidReceipt"
  | .unexpectedStatus _ => "UnexpectedStatus"
  | .unavailable _ => "Unavailable"
  | .transport _ => "Transport"

def ofKind? (kind text : String) : Option DeliveryError :=
  [.invalidEndpoint text,.invalidMethod text,.invalidHeader text,.invalidReceipt,
   .unexpectedStatus text,.unavailable text,.transport text].find? (fun e => e.kind == kind)

def chain : DeliveryError → List String
  | .transport t => [message (.transport t),t]
  | e => [e.message]

end DeliveryError

structure Delivery where
  receipt : Receipt
  notices : List Notice := []
  deriving DecidableEq, Repr

class Backend (ρ : Type) where
  deliver : Report → ρ → Outcome DeliveryError Delivery × ρ

end HostMeter
