import HostMeter.Number.Limits
import HostMeter.Number.Shortest
import HostMeter.Table
set_option autoImplicit false

/-! Counters, gauges and the latency histogram, with the lines that expose them. -/

namespace HostMeter

/-- Upper bounds of the latency buckets in thousandths of a second; a last one holds the rest. -/
def latencyBounds : List Nat := [5,10,25,50,100,250,500,1000,2500,5000,10000]

def latencyBound (thousandths : Nat) : Binary64 := Binary64.ofDecimal false thousandths (-3)

structure Metrics where
  messages : Table Nat := .empty
  filterErrors : Table Nat := .empty
  unhandled : Nat := 0
  samplesEmitted : Nat := 0
  samplesDropped : Nat := 0
  containersTracked : Int := 0
  collectionsActive : Int := 0
  reportsSent : Nat := 0
  reportsFailed : Nat := 0
  /-- How long the delivered reports took, newest first. -/
  latencies : List Binary64 := []
  deriving DecidableEq, Repr

namespace Metrics

def bump (t : Table Nat) (k : String) : Table Nat := t.insert k ((t.get? k).getD 0+1)

def incMessages (m : Metrics) (kind : String) : Metrics := { m with messages := bump m.messages kind }
def incFilterErrors (m : Metrics) (filter : String) : Metrics :=
  { m with filterErrors := bump m.filterErrors filter }
def incUnhandled (m : Metrics) : Metrics := { m with unhandled := m.unhandled+1 }
def incSamplesEmitted (m : Metrics) : Metrics := { m with samplesEmitted := m.samplesEmitted+1 }
def incSamplesDropped (m : Metrics) : Metrics := { m with samplesDropped := m.samplesDropped+1 }
def incReportsFailed (m : Metrics) : Metrics := { m with reportsFailed := m.reportsFailed+1 }

/-- Gauges are signed words; a count too large for one turns negative. -/
def gauge (count : Nat) : Int := (count : Int).bmod limit64

def setContainersTracked (m : Metrics) (count : Nat) : Metrics :=
  { m with containersTracked := gauge count }
def setCollectionsActive (m : Metrics) (count : Nat) : Metrics :=
  { m with collectionsActive := gauge count }

def observeReportSent (m : Metrics) (seconds : Binary64) : Metrics :=
  { m with reportsSent := m.reportsSent+1, latencies := seconds :: m.latencies }

def within (m : Metrics) (bound : Binary64) : Nat := (m.latencies.filter (·.le bound)).length

def escapeLabel (s : String) : String :=
  String.ofList <| s.toList.flatMap fun c =>
    if c = '\\' then ['\\','\\'] else if c = '"' then ['\\','"']
    else if c = '\n' then ['\\','n'] else [c]

def labelled (name label value : String) : String :=
  name++"\x7b"++label++"=\""++escapeLabel value++"\"\x7d"

def labelledLines (name label : String) (t : Table Nat) : List (String × Int) :=
  t.entries.map (fun e => (labelled name label e.1,(e.2 : Int)))

def trackedGauge : String := "meter_agent_containers_tracked"
def activeGauge : String := "meter_agent_collections_active"
def latencyName (part : String) : String := "meter_agent_report_latency_seconds_"++part

def bucketLines (m : Metrics) : List (String × Int) :=
  latencyBounds.map (fun b =>
    (labelled (latencyName "bucket") "le" (latencyBound b).plainText,(m.within (latencyBound b) : Int)))
  ++[(labelled (latencyName "bucket") "le" "+Inf",(m.latencies.length : Int))]

def plainLines (m : Metrics) : List (String × Int) :=
  labelledLines "meter_agent_messages_total" "type" m.messages
  ++labelledLines "meter_agent_filter_errors_total" "filter" m.filterErrors
  ++[("meter_agent_unhandled_messages_total",(m.unhandled : Int)),
     ("meter_agent_samples_emitted_total",m.samplesEmitted),
     ("meter_agent_samples_dropped_total",m.samplesDropped),
     (trackedGauge,m.containersTracked),(activeGauge,m.collectionsActive),
     ("meter_agent_reports_sent_total",m.reportsSent),
     ("meter_agent_reports_failed_total",m.reportsFailed),
     (latencyName "count",m.latencies.length)]

def nonZero (lines : List (String × Int)) : List (String × Int) := lines.filter (·.2 ≠ 0)

def sinceRest (m : Metrics) : List (String × Int) := nonZero m.plainLines

/-- What has changed between two readings: increases, and new values for gauges. -/
def changes (before after : Metrics) : List (String × Int) :=
  let old := before.plainLines++before.bucketLines
  (after.plainLines++after.bucketLines).filterMap fun (name,v) =>
    let was := ((old.find? (·.1 == name)).map (·.2)).getD 0
    if v = was then none
    else some (name,if name = trackedGauge ∨ name = activeGauge then v else v-was)

end Metrics

class Metered (σ : Type) where
  count : (Metrics → Metrics) → σ → σ

export Metered (count)

end HostMeter
