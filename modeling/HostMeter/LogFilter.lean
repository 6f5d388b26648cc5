import HostMeter.Notice
import HostMeter.Text.Blank
import HostMeter.Text.Quoted
set_option autoImplicit false

/-! Which lines of the log are shown: a level for all of them, or levels for the parts of the program
they come from. -/

namespace HostMeter

def Notice.target : Notice → String
  | .registered _ | .alreadyRegistered _ | .dropped _ | .notRegistered _ => "meter_lib::registry"
  | .meterStarted .. | .meterStopping .. | .tracking .. | .trackingEnded .. | .reportAccepted ..
  | .reportFailed .. => "meter_lib::observability"
  | .alreadyCollected _ | .collectionStarted .. | .collectionStopped _ | .pollLost _
  | .allCollectionsStopped _ => "meter_lib::collector"
  | .usageEnded _ | .streamFull _ | .streamClosed _ => "meter_lib::collector::poll"
  | .usageOpened _ => "meter_lib::containers::mock"
  | .reportTaken .. => "meter_lib::reporting::mock"
  | .hierarchyUsed _ | .containersFound _ => "meter_lib::containers::cgroup"
  | .hierarchyWatched _ => "meter_lib::containers::watcher"
  | .driverRegistered _ | .reporterRegistered _ => "meter_lib::factory"
  | .processing _ => "meter_lib::pipeline::filters::logger"
  | .superseded .. | .processingStopped _ => "meter_lib::pipeline"
  | .notTrackable _ | .alreadyTracked _ | .untrackedChange _ => "meter_lib::pipeline::filters::registry"
  | .unknownToDriver _ | .unresolved _ => "meter_lib::pipeline::filters::resolve_container"
  | .serviceKeyMissing .. | .stateReached .. => "meter_lib::pipeline::filters::resolve_service"
  | .collectingAlready _ | .nothingToStop _ => "meter_lib::pipeline::filters::collector"
  | .notHandled _ => "meter_lib::pipeline::filters::not_handled"
  | .dispatcherStarted .. | .queueClosed | .messageFailed .. | .workerCrashed
  | .dispatcherDrained .. => "meter_lib::pipeline::dispatcher"
  | .policyUnreachable .. | .listingFailed _ | .discoveryComplete _ | .eventStreamClosed
  | .untrackedEvent .. | .notAdmitted _ | .vanished _ | .resolvingFailed .. | .registeringFailed ..
  | .dispatchFailed _ | .reportingStopped _ => "meter_lib::agent"
  | .apiStarting _ | .apiStopped => "meter_lib::api"
  | .apiFailed _ | .configured _ | .shuttingDown _ | .agentStopped .. => "meter_agent"

/-- The least severity that is shown of the notes whose target begins in a certain way. -/
structure LogRule where
  target : String
  least : Nat
  deriving DecidableEq, Repr

/-- The most special rule decides; where there is none, nothing is shown. -/
structure LogFilter where
  rules : List LogRule
  deriving DecidableEq, Repr

namespace LogFilter

def nothing : Nat := 4

def leastOf? (word : String) : Option Nat :=
  ([("off",nothing),("error",3),("warn",2),("info",1),("debug",0),("trace",0),("0",nothing),("1",3),
    ("2",2),("3",1),("4",0),("5",0)].find? (·.1 == word.toLower)).map (·.2)

def ofLevel (level : String) : LogFilter := ⟨[⟨"",(leastOf? level).getD 3⟩]⟩

/-- A level alone, a target alone, or a level for a target. -/
def readRule? (cs : List Char) : Option LogRule :=
  match Text.splitOnce '=' cs with
  | some (t,l) => (leastOf? (String.ofList l)).map (⟨String.ofList t,·⟩)
  | none => match leastOf? (String.ofList cs) with
    | some l => some ⟨"",l⟩
    | none =>
      if cs.all (fun c => c.isAlphanum || c = '_' || c = ':' || c = '-') then
        some ⟨String.ofList cs,0⟩
      else none

/-- Rules between commas; no rules at all let errors through. -/
def ofText? (s : String) : Option LogFilter :=
  let parts := (Text.splitAll (· = ',') s.toList).filter (· ≠ [])
  if parts = [] then some (ofLevel "error") else (parts.mapM readRule?).map LogFilter.mk

def applies (target : String) (r : LogRule) : Bool := target.startsWith r.target

def moreSpecial (best : Option LogRule) (r : LogRule) : Option LogRule :=
  match best with
  | some b => if r.target.length < b.target.length then some b else some r
  | none => some r

def shows (f : LogFilter) (n : Notice) : Bool :=
  match (f.rules.filter (applies n.target)).foldl moreSpecial none with
  | some r => decide (r.least ≤ n.line.level.severity)
  | none => false

end LogFilter

namespace Notice

def quotedFields : Notice → List String
  | .untrackedEvent .. => []
  | _ => ["event","driver","reporter","filter","signal"]

def fieldText (quotes : List String) (f : String × Json) : String :=
  " "++f.1++"="++match f.2 with
    | .str s => if quotes.contains f.1 then Text.quoted s else s
    | v => v.text

def plainLine (n : Notice) : String :=
  let l := n.line
  l.level.name.map Char.toUpper++" "++n.target++": "++l.text
    ++String.join (l.fields.map (fieldText n.quotedFields))

end Notice

end HostMeter
