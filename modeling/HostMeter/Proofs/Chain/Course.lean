import HostMeter.Proofs.Core
set_option autoImplicit false

/-! What a message sent through the standard chain does to the core of a meter, told without the
filters: a registration or a removal, a look-up, a start or a stop of sampling, and a report. -/

namespace HostMeter

variable {δ ρ : Type}

def Passage.ofDelivery : Outcome DeliveryError Delivery → Passage
  | .done _ => .stopped
  | .failed e => .failed ⟨"reporter",.reporting e⟩
  | .crashed => .crashed

/-- A change with the descriptor that is registered under its name, when it has none of its own. -/
def StateChange.resolvedIn (r : Registry) (c : StateChange) : StateChange :=
  match c.container,r.get? c.containerName with
  | none,some info => c.withContainer info
  | _,_ => c

theorem StateChange.resolvedIn_of_resolved {r : Registry} {c : StateChange}
    (h : c.isResolved = true) : c.resolvedIn r = c := by
  obtain ⟨info,hi⟩ := Option.isSome_iff_exists.mp h
  simp [resolvedIn,hi]

theorem StateChange.resolvedIn_of_registered {r : Registry} {c : StateChange} {info : Container}
    (h : c.isResolved = false) (hi : r.get? c.containerName = some info) :
    c.resolvedIn r = c.withContainer info := by
  have hn : c.container = none := by simpa [isResolved] using h
  simp [resolvedIn,hn,hi]

def Collector.acquire (o : Opening) (c : Collector) : Collector :=
  let channels := c.channels.add ⟨o.container,.ofPlaces o.places⟩
  match o.abandoned with
  | some i => { c with channels := channels.cut i }
  | none => { c with channels }

namespace Core

variable [ContainerRuntime δ] [Backend ρ]

/-- Hands a report over; whatever the answer, the message ends here. -/
def deliver (r : Report) (k : Core δ ρ) : Passage × Core δ ρ :=
  (.ofDelivery (Backend.deliver r k.backend).1,{ k with backend := (Backend.deliver r k.backend).2 })

def start (name : String) (k : Core δ ρ) : Except Passage Unit × Core δ ρ :=
  if k.collector.isCollecting name then (.ok (),k)
  else
    match ContainerRuntime.openUsage name k.collector.channels.next k.runtime with
    | (.done o,runtime) =>
      let collector := ((k.collector.acquire o).collect k.collector.channels.next).2.1
      (.ok (),{ k with runtime, collector })
    | (.failed e,runtime) =>
      (.error (.failed ⟨"sample_collector",.opening name e⟩),{ k with runtime })
    | (.crashed,runtime) => (.error .crashed,{ k with runtime })

def halt (name : String) (k : Core δ ρ) : Except Passage Unit × Core δ ρ :=
  match k.collector.stop name with
  | (.channel i,c,_) => (.ok (),{ k with collector := { c with channels := c.channels.close i } })
  | (.notFound,c,_) => (.ok (),{ k with collector := c })
  | (.lost,c,_) =>
    (.error (.failed ⟨"sample_collector",.stopping name⟩),{ k with collector := c })

def sample (c : StateChange) (k : Core δ ρ) : Except Passage Unit × Core δ ρ :=
  match c.state with
  | .running => k.start c.containerName
  | .stopped => k.halt c.containerName
  | .unknown => (.ok (),k)

/-- A resolved change starts or stops the sampling of its container and is reported. -/
def follow (meterId : String) (c : StateChange) (k : Core δ ρ) : Passage × Core δ ρ :=
  match k.sample c with
  | (.error p,k) => (p,k)
  | (.ok (),k) => k.deliver (.ofChange meterId c k.clock)

/-- Asks the runtime about a container that runs; one it does not know stays without descriptor. -/
def look (c : StateChange) (k : Core δ ρ) : Except Passage StateChange × Core δ ρ :=
  if c.isResolved then (.ok c,k)
  else
    match ContainerRuntime.describe c.containerName k.runtime with
    | (.done info,runtime) => (.ok (c.withContainer info),{ k with runtime })
    | (.failed (.notFound _),runtime) => (.ok c,{ k with runtime })
    | (.failed e,runtime) =>
      (.error (.failed ⟨"container_resolver",.resolving c.containerName e⟩),{ k with runtime })
    | (.crashed,runtime) => (.error .crashed,{ k with runtime })

def change (meterId : String) (c : StateChange) (k : Core δ ρ) : Passage × Core δ ρ :=
  if k.registry.isRegistered c.containerName then
    match c.state with
    | .running =>
      match k.look c with
      | (.error p,k) => (p,k)
      | (.ok c,k) => k.follow meterId c
    | .stopped =>
      follow meterId (c.resolvedIn k.registry)
        { k with registry := (k.registry.drop c.containerName).2 }
    | .unknown => k.follow meterId c
  else (.stopped,k)

def discover (meterId : String) (c : Container) (k : Core δ ρ) : Passage × Core δ ρ :=
  match k.registry.register c with
  | (.added,registry) => follow meterId (.ofEvent (.existed c k.clock)) { k with registry }
  | _ => (.stopped,k)

section

omit [Backend ρ]

variable {name : String} {k : Core δ ρ} {c : StateChange} {o : Opening} {runtime : δ}

theorem start_collecting (h : k.collector.isCollecting name = true) : k.start name = (.ok (),k) := by
  simp [start,h]

theorem start_done (hc : k.collector.isCollecting name = false)
    (h : ContainerRuntime.openUsage name k.collector.channels.next k.runtime = (.done o,runtime)) :
    k.start name = (.ok (),{ k with
      runtime
      collector := ((k.collector.acquire o).collect k.collector.channels.next).2.1 }) := by
  simp [start,hc,h]

theorem start_failed {e : RuntimeError} (hc : k.collector.isCollecting name = false)
    (h : ContainerRuntime.openUsage name k.collector.channels.next k.runtime = (.failed e,runtime)) :
    k.start name =
      (.error (.failed ⟨"sample_collector",.opening name e⟩),{ k with runtime }) := by
  simp [start,hc,h]

theorem start_crashed (hc : k.collector.isCollecting name = false)
    (h : ContainerRuntime.openUsage name k.collector.channels.next k.runtime = (.crashed,runtime)) :
    k.start name = (.error .crashed,{ k with runtime }) := by
  simp [start,hc,h]

theorem look_resolved (h : c.isResolved = true) : k.look c = (.ok c,k) := by
  simp [look,h]

theorem look_done {info : Container} (hc : c.isResolved = false)
    (h : ContainerRuntime.describe c.containerName k.runtime = (.done info,runtime)) :
    k.look c = (.ok (c.withContainer info),{ k with runtime }) := by
  simp [look,hc,h]

theorem look_notFound {n : String} (hc : c.isResolved = false)
    (h : ContainerRuntime.describe c.containerName k.runtime = (.failed (.notFound n),runtime)) :
    k.look c = (.ok c,{ k with runtime }) := by
  simp [look,hc,h]

theorem look_failed {e : RuntimeError} (hc : c.isResolved = false)
    (h : ContainerRuntime.describe c.containerName k.runtime = (.failed e,runtime))
    (he : ∀ n,e ≠ .notFound n) :
    k.look c =
      (.error (.failed ⟨"container_resolver",.resolving c.containerName e⟩),{ k with runtime }) := by
  cases e with
  | notFound n => exact absurd rfl (he n)
  | _ => simp [look,hc,h]

theorem look_crashed (hc : c.isResolved = false)
    (h : ContainerRuntime.describe c.containerName k.runtime = (.crashed,runtime)) :
    k.look c = (.error .crashed,{ k with runtime }) := by
  simp [look,hc,h]

theorem sample_running (h : c.state = .running) : k.sample c = k.start c.containerName := by
  simp [sample,h]

theorem sample_stopped (h : c.state = .stopped) : k.sample c = k.halt c.containerName := by
  simp [sample,h]

theorem sample_unknown (h : c.state = .unknown) : k.sample c = (.ok (),k) := by
  simp [sample,h]

end

section

omit [ContainerRuntime δ] [Backend ρ]

variable {name : String} {k : Core δ ρ} {d : Collector} {es : Collector.Effects}

theorem halt_channel {i : ChannelId} (h : k.collector.stop name = (.channel i,d,es)) :
    k.halt name =
      (.ok (),{ k with collector := { d with channels := d.channels.close i } }) := by
  simp [halt,h]

theorem halt_notFound (h : k.collector.stop name = (.notFound,d,es)) :
    k.halt name = (.ok (),{ k with collector := d }) := by
  simp [halt,h]

theorem halt_lost (h : k.collector.stop name = (.lost,d,es)) :
    k.halt name =
      (.error (.failed ⟨"sample_collector",.stopping name⟩),{ k with collector := d }) := by
  simp [halt,h]

end

theorem follow_ok {meterId : String} {c : StateChange} {k l : Core δ ρ}
    (h : k.sample c = (.ok (),l)) :
    k.follow meterId c = l.deliver (.ofChange meterId c l.clock) := by
  simp [follow,h]

theorem follow_error {meterId : String} {c : StateChange} {k l : Core δ ρ} {p : Passage}
    (h : k.sample c = (.error p,l)) : k.follow meterId c = (p,l) := by
  simp [follow,h]

section

variable {meterId : String} {k : Core δ ρ} {c : StateChange} {info : Container}

theorem change_untracked (h : k.registry.isRegistered c.containerName = false) :
    k.change meterId c = (.stopped,k) := by
  simp [change,h]

theorem change_running (h : k.registry.isRegistered c.containerName = true)
    (hs : c.state = .running) :
    k.change meterId c =
      match k.look c with
      | (.error p,k) => (p,k)
      | (.ok c,k) => k.follow meterId c := by
  exact (if_pos h).trans (hs ▸ rfl)

theorem change_stopped (h : k.registry.isRegistered c.containerName = true)
    (hs : c.state = .stopped) :
    k.change meterId c =
      follow meterId (c.resolvedIn k.registry)
        { k with registry := (k.registry.drop c.containerName).2 } := by
  simp only [change,h,hs,if_true]

theorem change_unknown (h : k.registry.isRegistered c.containerName = true)
    (hs : c.state = .unknown) : k.change meterId c = k.follow meterId c := by
  simp only [change,h,hs,if_true]

theorem discover_added (h : (k.registry.register info).1 = .added) :
    k.discover meterId info =
      follow meterId (.ofEvent (.existed info k.clock))
        { k with registry := (k.registry.register info).2 } := by
  rcases hr : k.registry.register info with ⟨a,registry⟩
  rw [hr] at h
  simp only at h
  subst h
  simp only [discover,hr]

theorem discover_refused (h : (k.registry.register info).1 ≠ .added) :
    k.discover meterId info = (.stopped,k) := by
  rcases hr : k.registry.register info with ⟨a,registry⟩
  rw [hr] at h
  cases a with
  | added => exact absurd rfl h
  | present => simp only [discover,hr]
  | notTrackable => simp only [discover,hr]

end

def send (meterId : String) : Message → Core δ ρ → Passage × Core δ ρ
  | .discovery c,k => k.discover meterId c
  | .change c,k => k.change meterId c
  | .sample x,k => k.deliver (.ofSample meterId x k.clock)
  | .report r,k => k.deliver r
  | .devnull,k => (.stopped,k)

end Core

end HostMeter
