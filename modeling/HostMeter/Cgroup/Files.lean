import HostMeter.Number.Limits
import HostMeter.Number.Literal
import HostMeter.Table
import HostMeter.Text.Blank
import HostMeter.Text.Utf8
import HostMeter.Usage
set_option autoImplicit false

/-! The files of a cgroup and of a process. What a line does not say properly is passed over. -/

namespace HostMeter.Cgroup

open Text

def keyedLine (line : List Char) : Option (String × UInt64) :=
  match words line with
  | key :: value :: _ => (readWord64 value).map (fun n => (String.ofList key,n))
  | _ => none

/-- A key and a value per line; later lines win. -/
def flatKeyed (cs : List Char) : Table UInt64 := .ofList ((lines cs).filterMap keyedLine)

def cpuStat (cs : List Char) : UInt64 := ((flatKeyed cs).get? "usage_usec").getD 0

def isTraffic (key : List Char) : Bool := key = "rbytes".toList || key = "wbytes".toList

def trafficWord (word : List Char) : Option UInt64 :=
  (splitOnce '=' word).bind fun (key,value) => if isTraffic key then readWord64 value else none

def sumWords (ns : List UInt64) : UInt64 := ns.foldl (· + ·) 0

def deviceTraffic (line : List Char) : UInt64 :=
  sumWords (((words line).drop 1).filterMap trafficWord)

/-- Bytes read and written, a number for every line that is not blank. -/
def ioStat (cs : List Char) : List UInt64 :=
  ((lines cs).filter (fun line => trim line ≠ [])).map deviceTraffic

/-- Quota over period in cores; no quota or no real period means no limit. -/
def cpuMax (cs : List Char) : Option Binary64 :=
  match words cs with
  | quota :: period :: _ => do
    let p ← Binary64.ofText? period
    if quota = "max".toList ∨ p.le (Binary64.zero false) then none
    else (Binary64.ofText? quota).map (·.div p)
  | _ => none

def memoryMax (cs : List Char) : Option UInt64 := readWord64 (trim cs)

def splitZero : Bytes → List Bytes
  | [] => [[]]
  | b :: bs =>
    if b = 0 then [] :: splitZero bs
    else match splitZero bs with
      | [] => [[b]]
      | piece :: pieces => (b :: piece) :: pieces

/-- A variable of the environment, its key in lower case. -/
def environEntry (entry : Bytes) : Option (String × String) :=
  (splitOnce '=' (Utf8.decodeLossy entry)).map
    (fun (key,value) => (String.ofList (lowerAscii key),String.ofList value))

/-- Zero bytes separate the variables; later ones win. -/
def environ (block : Bytes) : Table String :=
  .ofList (((splitZero block).filter (· ≠ [])).filterMap environEntry)

/-- An interface line has a name, a colon and at least nine counters: received bytes come first,
sent bytes ninth. The loopback interface does not count. -/
def interfaceLine (line : List Char) : Option InterfaceUsage := do
  let (name,data) ← splitOnce ':' (trim line)
  if name = "lo".toList then none
  else
    let fields := (words data).map (fun w => (readWord64 w).getD 0)
    match fields[0]?,fields[8]? with
    | some rx,some tx => some ⟨String.ofList name,rx,tx⟩
    | _,_ => none

/-- Two lines of headings, then a line per interface. -/
def netDev (cs : List Char) : NetworkUsage :=
  let interfaces := ((lines cs).drop 2).filterMap interfaceLine
  ⟨sumWords (interfaces.map (·.rxBytes)),sumWords (interfaces.map (·.txBytes)),interfaces⟩

def firstPid (cs : List Char) : Option Nat :=
  (lines cs).findSome? (fun line => readUnsigned limit32 (trim line))

end HostMeter.Cgroup
