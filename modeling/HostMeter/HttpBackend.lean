import HostMeter.Backend
import HostMeter.Text.Quoted
import HostMeter.Web.Endpoint
import HostMeter.Web.Token
set_option autoImplicit false

/-! A receiver that takes each report as the body of a request, and answers with a receipt in a
header of its own. -/

namespace HostMeter

structure HttpSettings where
  url : Option String := none
  method : String := "POST"
  receiptHeader : String := "X-Meter-Receipt"
  headers : Table String := .empty
  version : String := "0.1.0"
  timeoutMs : Nat := 30000
  deriving DecidableEq, Repr

structure HttpRequest where
  method : String
  target : String
  /-- Names in small letters. -/
  headers : List (String × String)
  body : Json

structure HttpResponse where
  status : Nat
  headers : List (String × Bytes)
  deriving Repr

structure HttpBackend where
  endpoint : Web.Endpoint
  method : String
  receiptHeader : String
  headers : List (String × String)
  deriving DecidableEq, Repr

namespace HttpBackend

def product : String := "usage-meter-http-reporter"

def orDefault (s absent : String) : String := if s = "" then absent else s

def readMethod (s : String) : Except DeliveryError String :=
  let m := orDefault (s.map Char.toUpper) "POST"
  if Web.isMethod m then .ok m else .error (.invalidMethod s)

def readName (s : String) : Except DeliveryError String :=
  if Web.isHeaderName s then .ok s.toLower else .error (.invalidHeader ("name "++Text.quoted s))

def readValue (s : String) : Except DeliveryError String :=
  if Web.isHeaderValue s then .ok s else .error (.invalidHeader ("value "++Text.quoted s))

def readHeader (h : String × String) : Except DeliveryError (String × String) := do
  pure (← readName h.1,← readValue h.2)

def readEndpoint (url : Option String) : Except DeliveryError Web.Endpoint :=
  match Web.Endpoint.ofText (url.getD "") with
  | .ok e => .ok e
  | .error e => .error (.invalidEndpoint e.message)

def ofSettings (s : HttpSettings) : Except DeliveryError HttpBackend := do
  let endpoint ← readEndpoint s.url
  let method ← readMethod s.method
  let receiptHeader ← readName (orDefault s.receiptHeader "X-Meter-Receipt")
  let agent ← readValue (product++"/"++s.version)
  let version ← readValue s.version
  let extra ← s.headers.entries.mapM readHeader
  pure { endpoint, method, receiptHeader
         headers := [("user-agent",agent),("x-meter-version",version)]++extra }

def request (b : HttpBackend) (r : Report) : HttpRequest where
  method := b.method
  target := b.endpoint.target
  headers := b.headers++[("content-type","application/json")]
  body := Report.codec.write r

def reasons : List (Nat × String) :=
  [(100,"Continue"),(101,"Switching Protocols"),(102,"Processing"),(300,"Multiple Choices"),
   (301,"Moved Permanently"),(302,"Found"),(303,"See Other"),(304,"Not Modified"),(305,"Use Proxy"),
   (307,"Temporary Redirect"),(308,"Permanent Redirect"),(400,"Bad Request"),(401,"Unauthorized"),
   (402,"Payment Required"),(403,"Forbidden"),(404,"Not Found"),(405,"Method Not Allowed"),
   (406,"Not Acceptable"),(407,"Proxy Authentication Required"),(408,"Request Timeout"),
   (409,"Conflict"),(410,"Gone"),(411,"Length Required"),(412,"Precondition Failed"),
   (413,"Payload Too Large"),(414,"URI Too Long"),(415,"Unsupported Media Type"),
   (416,"Range Not Satisfiable"),(417,"Expectation Failed"),(418,"I'm a teapot"),
   (421,"Misdirected Request"),(422,"Unprocessable Entity"),(423,"Locked"),
   (424,"Failed Dependency"),(426,"Upgrade Required"),(428,"Precondition Required"),
   (429,"Too Many Requests"),(431,"Request Header Fields Too Large"),
   (451,"Unavailable For Legal Reasons"),(500,"Internal Server Error"),(501,"Not Implemented"),
   (502,"Bad Gateway"),(503,"Service Unavailable"),(504,"Gateway Timeout"),
   (505,"HTTP Version Not Supported"),(506,"Variant Also Negotiates"),(507,"Insufficient Storage"),
   (508,"Loop Detected"),(510,"Not Extended"),(511,"Network Authentication Required")]

def statusText (status : Nat) : String :=
  toString status++" "++((reasons.find? (·.1 = status)).map (·.2)).getD "<unknown status code>"

/-- A receipt is text of ASCII without controls, and not empty. -/
def receiptText? (value : Bytes) : Option String :=
  if value.all (fun b => b = 9 || (0x20 ≤ b && b < 0x7F)) && !value.isEmpty then
    some (String.ofList (value.map (fun b => Char.ofNat b.toNat)))
  else none

/-- What a response means for the report it answers; the first header of a name counts. -/
def judge (b : HttpBackend) (r : HttpResponse) : Except DeliveryError Receipt :=
  if r.status < 200 ∨ 300 ≤ r.status then .error (.unexpectedStatus (statusText r.status))
  else
    match (r.headers.find? (·.1 == b.receiptHeader)).bind (receiptText? ·.2) with
    | some text => .ok ⟨text⟩
    | none => .error .invalidReceipt

end HttpBackend

/-- A backend with the network its requests go out on; no response means that there was none. -/
structure Online where
  backend : HttpBackend
  network : HttpRequest → Option HttpResponse

namespace Online

/-- Why an exchange failed is for the network to say. -/
def noResponse : DeliveryError := .transport ""

def exchange (o : Online) (r : Report) : Except DeliveryError Receipt :=
  match o.network (o.backend.request r) with
  | some response => o.backend.judge response
  | none => .error noResponse

instance : Backend Online where
  deliver r o :=
    match o.exchange r with
    | .ok receipt => (.done { receipt },o)
    | .error e => (.failed e,o)

end Online

end HostMeter
