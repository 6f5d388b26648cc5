import HostMeter.Proofs.Chain.Course
import HostMeter.Proofs.Pipeline
set_option autoImplicit false

/-! What each filter of the standard chain makes of a message and of the core of a meter. Only the
second filter touches the registry, only the fifth the collector, only the seventh the backend. -/

namespace HostMeter

variable {δ ρ : Type}

theorem StateChange.resolvedIn_of_unknown {r : Registry} {c : StateChange}
    (h : r.get? c.containerName = none) : c.resolvedIn r = c := by
  unfold resolvedIn
  rw [h]
  cases c.container <;> rfl

namespace Core

def enter (c : Container) (k : Core δ ρ) : Except Passage Message × Core δ ρ :=
  match k.registry.register c with
  | (.added,registry) => (.ok (.change (.ofEvent (.existed c k.clock))),{ k with registry })
  | _ => (.error .stopped,k)

def check (c : StateChange) (k : Core δ ρ) : Except Passage Message × Core δ ρ :=
  if k.registry.isRegistered c.containerName then
    if c.state = .stopped then
      (.ok (.change (c.resolvedIn k.registry)),
        { k with registry := (k.registry.drop c.containerName).2 })
    else (.ok (.change c),k)
  else (.error .stopped,k)

variable [ContainerRuntime δ]

def resolve (c : StateChange) (k : Core δ ρ) : Except Passage Message × Core δ ρ :=
  match c.state with
  | .running => ((k.look c).1.map .change,(k.look c).2)
  | .stopped => (.ok (.change (c.resolvedIn k.registry)),k)
  | .unknown => (.ok (.change c),k)

/-- The filter of the standard chain at a place, from 0 on. -/
def pass [Backend ρ] (meterId : String) :
    Nat → Message → Core δ ρ → Except Passage Message × Core δ ρ
  | 1,.discovery c,k => k.enter c
  | 1,.change c,k => k.check c
  | 2,.change c,k => k.resolve c
  | 4,.discovery c,k => ((k.start c.name).1.map fun _ => .discovery c,(k.start c.name).2)
  | 4,.change c,k => ((k.sample c).1.map fun _ => .change c,(k.sample c).2)
  | 5,.change c,k => (.ok (.report (.ofChange meterId c k.clock)),k)
  | 5,.sample x,k => (.ok (.report (.ofSample meterId x k.clock)),k)
  | 6,.report r,k => (.error (k.deliver r).1,(k.deliver r).2)
  | 7,_,k => (.error .stopped,k)
  | _,msg,k => (.ok msg,k)

section

variable [Backend ρ] (meterId : String) (k : Core δ ρ)

theorem pass_discovery (info : Container) : k.pass meterId 1 (.discovery info) = k.enter info := rfl

theorem pass_change (c : StateChange) : k.pass meterId 1 (.change c) = k.check c := rfl

theorem pass_resolve (c : StateChange) : k.pass meterId 2 (.change c) = k.resolve c := rfl

theorem pass_sample (c : StateChange) :
    k.pass meterId 4 (.change c) =
      ((k.sample c).1.map fun _ => .change c,(k.sample c).2) := rfl

end

variable {k : Core δ ρ} {c : StateChange} {info : Container}

omit [ContainerRuntime δ] in
theorem enter_added (h : (k.registry.register info).1 = .added) :
    k.enter info = (.ok (.change (.ofEvent (.existed info k.clock))),
      { k with registry := (k.registry.register info).2 }) := by
  rcases hr : k.registry.register info with ⟨a,registry⟩
  rw [hr] at h
  simp only at h
  subst h
  simp only [enter,hr]

omit [ContainerRuntime δ] in
theorem enter_refused (h : (k.registry.register info).1 ≠ .added) :
    k.enter info = (.error .stopped,k) := by
  rcases hr : k.registry.register info with ⟨a,registry⟩
  rw [hr] at h
  cases a with
  | added => exact absurd rfl h
  | present => simp only [enter,hr]
  | notTrackable => simp only [enter,hr]

omit [ContainerRuntime δ] in
theorem check_untracked (h : k.registry.isRegistered c.containerName = false) :
    k.check c = (.error .stopped,k) := by
  simp [check,h]

omit [ContainerRuntime δ] in
theorem check_stopped (h : k.registry.isRegistered c.containerName = true)
    (hs : c.state = .stopped) :
    k.check c = (.ok (.change (c.resolvedIn k.registry)),
      { k with registry := (k.registry.drop c.containerName).2 }) := by
  simp [check,h,hs]

omit [ContainerRuntime δ] in
theorem check_tracked (h : k.registry.isRegistered c.containerName = true)
    (hs : c.state ≠ .stopped) : k.check c = (.ok (.change c),k) := by
  simp [check,h,hs]

theorem resolve_running (hs : c.state = .running) :
    k.resolve c = ((k.look c).1.map .change,(k.look c).2) := by
  simp only [resolve,hs]

theorem resolve_stopped (hs : c.state = .stopped) :
    k.resolve c = (.ok (.change (c.resolvedIn k.registry)),k) := by
  simp only [resolve,hs]

theorem resolve_unknown (hs : c.state = .unknown) : k.resolve c = (.ok (.change c),k) := by
  simp only [resolve,hs]

theorem resolve_resolved (h : c.isResolved = true) : k.resolve c = (.ok (.change c),k) := by
  cases hs : c.state with
  | running =>
    rw [resolve_running hs,look_resolved h]
    rfl
  | stopped => rw [resolve_stopped hs,StateChange.resolvedIn_of_resolved h]
  | unknown => exact resolve_unknown hs

end Core

def Meter.passed (p : Except Passage Message × Meter δ ρ) : Except Passage Message × Core δ ρ :=
  (p.1,p.2.core)

namespace Chain

open Meter

theorem passed_idle {f : Filter (Meter δ ρ)} {msg : Message} {m : Meter δ ρ}
    (h : f.handle msg m = ({},m)) : passed (f.pass msg m) = (.ok msg,m.core) := by
  rw [Filter.pass_on h]
  rfl

theorem passed_logger (msg : Message) (m : Meter δ ρ) :
    passed (logger.pass msg m) = (.ok msg,m.core) := by
  have h : logger.handle msg m = ({},note (.processing msg.kind) m) := rfl
  rw [Filter.pass_on h]
  rfl

theorem passed_discovery (meterId : String) (c : Container) (m : Meter δ ρ) :
    passed ((registry meterId).pass (.discovery c) m) = m.core.enter c := by
  have hr : (registry meterId).handle (.discovery c) m = discover meterId c m := rfl
  cases ht : m.registry.isTrackable c with
  | false =>
    have hp : discover meterId c m = ({ requests := [.stop] },note (.notTrackable c.name) m) := by
      simp [discover,ht]
    rw [Filter.pass_stop (hr.trans hp),
      Core.enter_refused (by simp [Registry.register_untrackable ht])]
    rfl
  | true =>
    have hk := core_register c m
    have hf := register_fst c m
    rcases hm : m.register c with ⟨a,m'⟩
    cases hn : m.registry.isRegistered c.name with
    | true =>
      rw [hm,Registry.register_present ht hn] at hk hf
      simp only at hk hf
      subst hf
      have hp : discover meterId c m =
          ({ requests := [.stop] },note (.alreadyTracked c.name) m') := by
        simp [discover,ht,hm]
      rw [Filter.pass_stop (hr.trans hp),
        Core.enter_refused (by simp [Registry.register_present ht hn])]
      simp only [passed,core_note,hk]
      rfl
    | false =>
      have ha := Registry.register_added ht hn
      rw [hm] at hk hf
      rw [ha] at hf
      simp only at hk hf
      subst hf
      have hclock : m'.clock = m.clock := congrArg Core.clock hk
      have hp : discover meterId c m =
          ({ requests := [.supersede (.change (.ofEvent (.existed c m'.clock)))] },
            note (.tracking meterId c.name c.imageName (Event.existed c m'.clock).type.tag)
              m'.countTracked) := by
        simp only [discover,ht,hm,Bool.not_true,Bool.false_eq_true,if_false]
      rw [Filter.pass_supersede (hr.trans hp),Core.enter_added (by simp [ha]),passed,core_note,
        core_note,core_countTracked,hk,hclock]
      rfl

theorem passed_change (meterId : String) (c : StateChange) (m : Meter δ ρ) :
    passed ((registry meterId).pass (.change c) m) = m.core.check c := by
  have hr : (registry meterId).handle (.change c) m = change meterId c m := rfl
  cases hn : m.registry.isRegistered c.containerName with
  | false =>
    have hp : change meterId c m =
        ({ requests := [.stop] },note (.untrackedChange c.containerName) m) := by
      simp [change,hn]
    rw [Filter.pass_stop (hr.trans hp),Core.check_untracked (k := m.core) hn]
    rfl
  | true =>
    by_cases hs : c.state = .stopped
    · obtain ⟨info,hi⟩ := Registry.get?_of_isRegistered hn
      rw [Core.check_stopped (k := m.core) hn hs]
      cases hc : c.isResolved with
      | true =>
        have hp : change meterId c m =
            ({},note (.trackingEnded meterId c.containerName c.source.type.tag)
              (m.drop c.containerName).2.countTracked) := by
          simp [change,hn,hs,hc]
        rw [Filter.pass_on (hr.trans hp),StateChange.resolvedIn_of_resolved hc]
        rfl
      | false =>
        have hp : change meterId c m =
            ({ requests := [.supersede (.change (c.withContainer info))] },
              note (.trackingEnded meterId c.containerName c.source.type.tag)
                (m.drop c.containerName).2.countTracked) := by
          simp [change,hn,hs,hc,hi]
        rw [Filter.pass_supersede (hr.trans hp),core_registry,
          StateChange.resolvedIn_of_registered hc hi]
        rfl
    · have hp : change meterId c m = ({},m) := by
        simp [change,hn,hs]
      rw [passed_idle (hr.trans hp),Core.check_tracked (k := m.core) hn hs]

theorem passed_service (serviceKey : String) (msg : Message) (m : Meter δ ρ) :
    passed ((serviceResolver serviceKey).pass msg m) = (.ok msg,m.core) := by
  cases msg with
  | change c =>
    have h : (serviceResolver serviceKey).handle (.change c) m =
        ({},m.noteAll (serviceNotices serviceKey c)) := rfl
    rw [Filter.pass_on h,passed,core_noteAll]
  | discovery c => exact passed_idle rfl
  | sample x => exact passed_idle rfl
  | report r => exact passed_idle rfl
  | devnull => exact passed_idle rfl

theorem passed_notHandled (msg : Message) (m : Meter δ ρ) :
    passed (notHandled.pass msg m) = (.error .stopped,m.core) := by
  have h : notHandled.handle msg m =
      ({ requests := [.stop] },
        note (.notHandled msg.kind) { m with metrics := m.metrics.incUnhandled }) := rfl
  rw [Filter.pass_stop h]
  rfl

@[simp] theorem core_delivered (s : ChainSettings) (r : Report) (receipt : Receipt) (m : Meter δ ρ) :
    (delivered s r receipt m).core = m.core := by
  unfold delivered
  split <;> simp

@[simp] theorem core_refused (s : ChainSettings) (r : Report) (e : DeliveryError) (m : Meter δ ρ) :
    (refused s r e m).core = m.core := by
  unfold refused
  split <;> simp

theorem passed_report [Backend ρ] (s : ChainSettings) (r : Report) (m : Meter δ ρ) :
    passed ((reporter s).pass (.report r) m) =
      (.error (m.core.deliver r).1,(m.core.deliver r).2) := by
  rcases h : Backend.deliver r m.backend with ⟨o,b⟩
  cases o with
  | done d =>
    have hr : (reporter s).handle (.report r) m =
        ({ requests := [.stop] },
          delivered s r d.receipt (noteAll d.notices { m with backend := b })) := by
      simp [reporter,report,Meter.deliver,h]
    rw [Filter.pass_stop hr]
    simp [passed,Core.deliver,h,Passage.ofDelivery]
  | failed e =>
    have hr : (reporter s).handle (.report r) m =
        ({ verdict := .failed (.reporting e) },refused s r e { m with backend := b }) := by
      simp [reporter,report,Meter.deliver,h]
    rw [Filter.pass_fail hr]
    simp [passed,Core.deliver,h,Passage.ofDelivery,reporter]
  | crashed =>
    have hr : (reporter s).handle (.report r) m =
        ({ verdict := .crashed },{ m with backend := b }) := by
      simp [reporter,report,Meter.deliver,h]
    rw [Filter.pass_crash hr]
    simp [passed,Core.deliver,h,Passage.ofDelivery]

section

variable [ContainerRuntime δ]

theorem passed_look {c : StateChange} (hs : c.state = .running) (hc : c.isResolved = false)
    (m : Meter δ ρ) : passed (containerResolver.pass (.change c) m) = m.core.resolve c := by
  rcases h : ContainerRuntime.describe c.containerName m.runtime with ⟨o,runtime⟩
  have hd : m.describe c.containerName = (o,{ m with runtime }) := by
    simp only [describe,h]
  have hr : containerResolver.handle (.change c) m = resolve c m := rfl
  rw [Core.resolve_running hs]
  cases o with
  | done info =>
    have hp : resolve c m =
        ({ requests := [.supersede (.change (c.withContainer info))] },{ m with runtime }) := by
      simp [resolve,hc,hs,hd,attach]
    rw [Filter.pass_supersede (hr.trans hp),Core.look_done hc h]
    rfl
  | failed e =>
    by_cases he : ∃ n,e = .notFound n
    · obtain ⟨n,rfl⟩ := he
      have hp : resolve c m = ({},note (.unresolved c.containerName)
          (note (.unknownToDriver c.containerName) { m with runtime })) := by
        simp [resolve,hc,hs,hd,attach]
      rw [Filter.pass_on (hr.trans hp),Core.look_notFound hc h]
      rfl
    · have hp : resolve c m =
          ({ verdict := .failed (.resolving c.containerName e) },{ m with runtime }) := by
        cases e with
        | notFound n => exact absurd ⟨n,rfl⟩ he
        | _ => simp [resolve,hc,hs,hd]
      rw [Filter.pass_fail (hr.trans hp),Core.look_failed hc h (fun n hn => he ⟨n,hn⟩)]
      rfl
  | crashed =>
    have hp : resolve c m = ({ verdict := .crashed },{ m with runtime }) := by
      simp [resolve,hc,hs,hd]
    rw [Filter.pass_crash (hr.trans hp),Core.look_crashed hc h]
    rfl

theorem passed_resolver (c : StateChange) (m : Meter δ ρ) :
    passed (containerResolver.pass (.change c) m) = m.core.resolve c := by
  have hr : containerResolver.handle (.change c) m = resolve c m := rfl
  cases hc : c.isResolved with
  | true =>
    have hp : resolve c m = ({},m) := by
      simp [resolve,hc]
    rw [passed_idle (hr.trans hp),Core.resolve_resolved hc]
  | false =>
    cases hs : c.state with
    | running => exact passed_look hs hc m
    | stopped =>
      rw [Core.resolve_stopped hs]
      cases hi : m.registry.get? c.containerName with
      | some info =>
        have hp : resolve c m =
            ({ requests := [.supersede (.change (c.withContainer info))] },m) := by
          simp [resolve,hc,hs,hi,attach]
        rw [Filter.pass_supersede (hr.trans hp),core_registry,
          StateChange.resolvedIn_of_registered hc hi]
        rfl
      | none =>
        have hp : resolve c m = ({},note (.unresolved c.containerName) m) := by
          simp [resolve,hc,hs,hi,attach]
        rw [Filter.pass_on (hr.trans hp),core_registry,StateChange.resolvedIn_of_unknown hi]
        rfl
    | unknown =>
      have hp : resolve c m = ({},note (.unresolved c.containerName) m) := by
        simp [resolve,hc,hs,attach]
      rw [Filter.pass_on (hr.trans hp),Core.resolve_unknown hs]
      rfl

omit [ContainerRuntime δ] in
theorem core_cutChannel_add (o : Opening) (m : Meter δ ρ) :
    (cutChannel o.abandoned
      (m.setChannels (m.channels.add ⟨o.container,.ofPlaces o.places⟩))).core =
        { m.core with collector := m.collector.acquire o } := by
  unfold cutChannel Collector.acquire
  cases o.abandoned <;> rfl

theorem openUsage_done {name : String} {m : Meter δ ρ} {o : Opening} {runtime : δ}
    (h : ContainerRuntime.openUsage name m.channels.next m.runtime = (.done o,runtime)) :
    ∃ m',m.openUsage name = (.done m.channels.next,m') ∧
      m'.core = { m.core with runtime, collector := m.collector.acquire o } := by
  refine ⟨_,by simp only [openUsage,h]; rfl,?_⟩
  rw [core_noteAll]
  exact core_cutChannel_add o { m with runtime }

theorem startSampling_done {name : String} {m : Meter δ ρ} {o : Opening} {runtime : δ}
    (hc : m.collector.isCollecting name = false)
    (h : ContainerRuntime.openUsage name m.channels.next m.runtime = (.done o,runtime)) :
    ∃ m',startSampling name m = ({},m') ∧
      m'.core = { m.core with
        runtime
        collector := ((m.collector.acquire o).collect m.channels.next).2.1 } := by
  obtain ⟨m',hm,hk⟩ := openUsage_done h
  refine ⟨(m'.collect m.channels.next).2,?_,?_⟩
  · simp [startSampling,hc,hm]
  · have hcol : m'.collector = m.collector.acquire o := congrArg Core.collector hk
    rw [Meter.collect,core_sampling,hk,hcol]

omit [ContainerRuntime δ] in
theorem stopCollecting_eq {name : String} {m : Meter δ ρ} {o : Collector.Stop} {d : Collector}
    {es : Collector.Effects} (h : m.collector.stop name = (o,d,es)) :
    ∃ m',m.stopCollecting name = (o,m') ∧ m'.core = { m.core with collector := d } := by
  refine ⟨(m.stopCollecting name).2,?_,?_⟩
  · have ho : (m.stopCollecting name).1 = o := congrArg Prod.fst h
    rw [← ho]
  · rw [stopCollecting,core_sampling,h]

theorem passed_start {msg : Message} {name : String} {m : Meter δ ρ}
    (hf : sampleCollector.handle msg m = startSampling name m) :
    passed (sampleCollector.pass msg m) =
      ((m.core.start name).1.map fun _ => msg,(m.core.start name).2) := by
  cases hc : m.collector.isCollecting name with
  | true =>
    have hp : startSampling name m = ({},note (.collectingAlready name) m) := by
      simp [startSampling,hc]
    rw [Filter.pass_on (hf.trans hp),Core.start_collecting hc]
    rfl
  | false =>
    rcases h : ContainerRuntime.openUsage name m.collector.channels.next m.runtime with ⟨o,runtime⟩
    cases o with
    | done o =>
      obtain ⟨m',hp,hm⟩ := startSampling_done hc h
      rw [Filter.pass_on (hf.trans hp),passed,hm,Core.start_done hc h]
      rfl
    | failed e =>
      have hp : startSampling name m =
          ({ verdict := .failed (.opening name e) },{ m with runtime }) := by
        simp [startSampling,hc,openUsage,channels,h]
      rw [Filter.pass_fail (hf.trans hp),Core.start_failed hc h]
      rfl
    | crashed =>
      have hp : startSampling name m = ({ verdict := .crashed },{ m with runtime }) := by
        simp [startSampling,hc,openUsage,channels,h]
      rw [Filter.pass_crash (hf.trans hp),Core.start_crashed hc h]
      rfl

theorem passed_halt {msg : Message} {name : String} {m : Meter δ ρ}
    (hf : sampleCollector.handle msg m = stopSampling name m) :
    passed (sampleCollector.pass msg m) =
      ((m.core.halt name).1.map fun _ => msg,(m.core.halt name).2) := by
  rcases h : m.collector.stop name with ⟨o,d,es⟩
  obtain ⟨m',hm,hd⟩ := stopCollecting_eq h
  have hcol : m'.collector = d := congrArg Core.collector hd
  cases o with
  | channel i =>
    have hp : stopSampling name m = ({},m'.closeChannel i) := by
      simp [stopSampling,hm]
    rw [Filter.pass_on (hf.trans hp),passed,core_closeChannel,hd,hcol,Core.halt_channel h]
    rfl
  | notFound =>
    have hp : stopSampling name m = ({},note (.nothingToStop name) m') := by
      simp [stopSampling,hm]
    rw [Filter.pass_on (hf.trans hp),passed,core_note,hd,Core.halt_notFound h]
    rfl
  | lost =>
    have hp : stopSampling name m = ({ verdict := .failed (.stopping name) },m') := by
      simp [stopSampling,hm]
    rw [Filter.pass_fail (hf.trans hp),passed,hd,Core.halt_lost h]
    rfl

theorem passed_sample (c : StateChange) (m : Meter δ ρ) :
    passed (sampleCollector.pass (.change c) m) =
      ((m.core.sample c).1.map fun _ => .change c,(m.core.sample c).2) := by
  cases hs : c.state with
  | running =>
    rw [Core.sample_running hs]
    exact passed_start (by simp [sampleCollector,hs])
  | stopped =>
    rw [Core.sample_stopped hs]
    exact passed_halt (by simp [sampleCollector,hs])
  | unknown =>
    rw [Core.sample_unknown hs,passed_idle (by simp [sampleCollector,hs])]
    rfl

end

theorem passed_registry (meterId : String) [ContainerRuntime δ] [Backend ρ] (msg : Message)
    (m : Meter δ ρ) : passed ((registry meterId).pass msg m) = m.core.pass meterId 1 msg := by
  cases msg with
  | discovery c => exact passed_discovery meterId c m
  | change c => exact passed_change meterId c m
  | sample x => exact passed_idle rfl
  | report r => exact passed_idle rfl
  | devnull => exact passed_idle rfl

variable [ContainerRuntime δ] [Backend ρ]

theorem passed_containerResolver (meterId : String) (msg : Message) (m : Meter δ ρ) :
    passed (containerResolver.pass msg m) = m.core.pass meterId 2 msg := by
  cases msg with
  | change c => exact passed_resolver c m
  | discovery c => exact passed_idle rfl
  | sample x => exact passed_idle rfl
  | report r => exact passed_idle rfl
  | devnull => exact passed_idle rfl

theorem passed_sampleCollector (meterId : String) (msg : Message) (m : Meter δ ρ) :
    passed (sampleCollector.pass msg m) = m.core.pass meterId 4 msg := by
  cases msg with
  | discovery c => exact passed_start rfl
  | change c => exact passed_sample c m
  | sample x => exact passed_idle rfl
  | report r => exact passed_idle rfl
  | devnull => exact passed_idle rfl

theorem passed_reportGenerator (meterId : String) (msg : Message) (m : Meter δ ρ) :
    passed ((reportGenerator meterId).pass msg m) = m.core.pass meterId 5 msg := by
  cases msg with
  | change c =>
    have h : (reportGenerator meterId).handle (.change c) m =
        ({ requests := [.supersede (.report (.ofChange meterId c m.clock))] },m) := rfl
    rw [Filter.pass_supersede h]
    rfl
  | sample x =>
    have h : (reportGenerator meterId).handle (.sample x) m =
        ({ requests := [.supersede (.report (.ofSample meterId x m.clock))] },m) := rfl
    rw [Filter.pass_supersede h]
    rfl
  | discovery c => exact passed_idle rfl
  | report r => exact passed_idle rfl
  | devnull => exact passed_idle rfl

theorem passed_reporter (s : ChainSettings) (msg : Message) (m : Meter δ ρ) :
    passed ((reporter s).pass msg m) = m.core.pass s.meterId 6 msg := by
  cases msg with
  | report r => exact passed_report s r m
  | discovery c => exact passed_idle rfl
  | change c => exact passed_idle rfl
  | sample x => exact passed_idle rfl
  | devnull => exact passed_idle rfl

theorem passed_standard {s : ChainSettings} {i : Nat} {f : Filter (Meter δ ρ)}
    (h : (standard s)[i]? = some f) (msg : Message) (m : Meter δ ρ) :
    passed (f.pass msg m) = m.core.pass s.meterId i msg := by
  rcases i with _ | _ | _ | _ | _ | _ | _ | _ | i <;> cases h
  · exact passed_logger msg m
  · exact passed_registry s.meterId msg m
  · exact passed_containerResolver s.meterId msg m
  · exact passed_service s.serviceKey msg m
  · exact passed_sampleCollector s.meterId msg m
  · exact passed_reportGenerator s.meterId msg m
  · exact passed_reporter s msg m
  · exact passed_notHandled msg m

end Chain

end HostMeter
