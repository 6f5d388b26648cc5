import HostMeter.CommandLine
import HostMeter.Configuration
import HostMeter.LogFilter
set_option autoImplicit false

/-! A run of the whole program: it configures itself, makes a runtime and a receiver, serves its
interface beside the agent, and ends when it is told to or when the agent cannot go on. -/

namespace HostMeter

structure Outside where
  surroundings : Surroundings
  host : Cgroup.HostFacts
  network : HttpRequest → Option HttpResponse := fun _ => none
  /-- Port numbers that somebody else listens on. -/
  isTaken : UInt16 → Bool := fun _ => false
  /-- The name this run gives itself where nothing names it. -/
  drawn : String
  clock : Timestamp := 0

/-- What a run has shown, and why it failed if it did, outermost first. -/
structure Ending where
  notices : List Notice
  failure : Option (List String) := none
  deriving DecidableEq, Repr

namespace Ending

def code (e : Ending) : Nat := if e.failure.isSome then 1 else 0

def causes : List String → String
  | [] => ""
  | [c] => "\nCaused by:\n    "++c++"\n"
  | cs => "\nCaused by:\n"++
      String.join (cs.zipIdx.map (fun (c,i) => "    "++toString i++": "++c++"\n"))

def errorText (e : Ending) : String :=
  match e.failure with
  | some (outer :: inner) => "Error: "++outer++"\n"++causes inner
  | _ => ""

end Ending

namespace Program

abbrev HostAgent := Agent AnyRuntime AnyBackend

def prepare (o : Outside) (c : Configuration) : List Notice × Except (List String) HostAgent :=
  let f := Factories.standard
  let begun := .configured c.instanceId :: Factories.standardNotices
  match f.createRuntime c.containers.runtime (c.runtimeSettings o.surroundings o.host o.clock) with
  | .error e => (begun,.error ("Failed to create container driver" :: e.chain))
  | .ok runtime =>
    match f.createBackend c.reporting.backend ⟨c.httpSettings,o.network⟩ with
    | .error e => (begun++runtime.notices,.error ("Failed to create reporter" :: e.chain))
    | .ok backend => (begun,.ok (.ofSettings c.agentSettings runtime backend {} o.clock))

def apiNotices (o : Outside) (c : Configuration) : List Notice × List Notice :=
  let begun := [.apiStarting ("0.0.0.0:"++toString c.apiPort)]
  if o.isTaken c.apiPort then (begun,[.apiFailed "address in use"]) else (begun,[.apiStopped])

def noted (a : HostAgent) : List Notice := a.meter.runtime.notices++a.meter.log.reverse

def forget (a : HostAgent) : HostAgent :=
  let runtime := match a.meter.runtime with
    | .cgroup h => .cgroup { h with log := [] }
    | r => r
  { a with meter := { a.meter with runtime, log := [] } }

def follow (o : Outside) (c : Configuration) (signal : String) (a : HostAgent) : Ending :=
  let (apiBegun,apiOver) := apiNotices o c
  let begun := .meterStarted c.instanceId CommandLine.versionNumber c.containers.runtime
    c.reporting.backend :: apiBegun
  match a.start c.dispatcherSettings with
  | (.error e,a) => ⟨begun++noted a++apiOver,some (Agent.failureChain e)⟩
  | (.ok (),a) =>
    let a := a.idle
    let (s,b) := (forget a).shutdown
    let last := .agentStopped s.processed s.failed :: apiOver
    ⟨begun++noted a++[.shuttingDown signal]++noted b++last,none⟩

/-- The variable whose rules win over the configured level. -/
def filterVariable : String := "RUST_LOG"

def logFilter (o : Outside) (c : Configuration) : LogFilter :=
  ((o.surroundings.var? filterVariable).bind LogFilter.ofText?).getD (.ofLevel c.log.level)

def run (o : Outside) (file : Option String) (signal : String) : LogFormat × Ending :=
  match Configuration.load o.surroundings file o.drawn with
  | .error e => (.text,⟨[],some (e.message :: e.cause?.toList)⟩)
  | .ok c =>
    let e : Ending := match prepare o c with
      | (ns,.error failure) => ⟨ns,some failure⟩
      | (ns,.ok a) =>
        let e := follow o c signal a
        { e with notices := ns++e.notices }
    (c.log.format,{ e with notices := e.notices.filter (logFilter o c).shows })

inductive Printed
  | text (s : String)
  | log (format : LogFormat) (ns : List Notice)
  deriving DecidableEq, Repr

structure Session where
  code : Nat
  printed : Printed
  errors : String := ""
  deriving DecidableEq, Repr

def session (o : Outside) (words : List String) (signal : String) : Session :=
  let file? := o.surroundings.var? CommandLine.fileVariable
  match CommandLine.read words file? with
  | .error e => { code := 2, printed := .text "", errors := e.text }
  | .ok .help => { code := 0, printed := .text (CommandLine.helpText file?) }
  | .ok .version => { code := 0, printed := .text CommandLine.versionText }
  | .ok (.run file) =>
    let (format,e) := run o file signal
    { code := e.code, printed := .log format e.notices, errors := e.errorText }

end Program

end HostMeter
