import HostMeter.Proofs.Workers.Overtaking
set_option autoImplicit false

/-! What becomes of a message that is sent through the standard chain. There is one way for it to end, and
which one it is can be told beforehand: from the registry and the collector as they are, and from the
answers that runtime and backend are about to give. -/

namespace HostMeter

variable {δ ρ : Type}

/-- The ways a message can end. -/
inductive Disposition
  /-- The registry has held it back. -/
  | ignored
  | reported (r : Report)
  | unhandled
  | failed (e : FilterError)
  /-- A filter did not come back from a call. -/
  | crashed (filter : String)
  deriving DecidableEq, Repr

namespace Disposition

def passage : Disposition → Passage
  | ignored => .stopped
  | reported _ => .stopped
  | unhandled => .stopped
  | failed e => .failed e
  | crashed _ => .crashed

def place : Disposition → String
  | ignored => "registry"
  | reported _ => "reporter"
  | unhandled => "not_handled"
  | failed e => e.filter
  | crashed filter => filter

end Disposition

section

variable {σ : Type} {fs : List (Filter σ)} {g : Flight} {d d' : Disposition}

/-- A message that has been taken through a chain has ended in this way. -/
structure Flight.Ends (fs : List (Filter σ)) (g : Flight) (d : Disposition) : Prop where
  fate : g.fate = some d.passage
  place : (Pipeline.names fs)[g.passed]? = some d.place
  report : ∀ r,d = .reported r → g.message = .report r

theorem Flight.Ends.unique (h : g.Ends fs d) (h' : g.Ends fs d') : d = d' := by
  have hp : d.passage = d'.passage := Option.some.inj (h.fate.symm.trans h'.fate)
  have hl : d.place = d'.place := Option.some.inj (h.place.symm.trans h'.place)
  have hr : ∀ r r',d = .reported r → d' = .reported r' → r = r' := by
    rintro r r' rfl rfl
    exact Message.report.inj ((h.report r rfl).symm.trans (h'.report r' rfl))
  cases d <;> cases d' <;> simp_all [Disposition.passage,Disposition.place]

end

namespace Core

variable {k l : Core δ ρ} {meterId : String} {msg msg' : Message} {c c' : StateChange}
  {r : Report} {d : Disposition}

/-- The change that a message goes on as when the registry lets it. -/
inductive Admits (k : Core δ ρ) : Message → StateChange → Prop
  | discovered (info : Container) (trackable : k.registry.isTrackable info = true)
    (free : k.registry.isRegistered info.name = false) :
    Admits k (.discovery info) (.ofEvent (.existed info k.clock))
  | changed (c : StateChange) (tracked : k.registry.isRegistered c.containerName = true)
    (goes : c.state ≠ .stopped) : Admits k (.change c) c
  | ended (c : StateChange) (tracked : k.registry.isRegistered c.containerName = true)
    (stops : c.state = .stopped) : Admits k (.change c) (c.resolvedIn k.registry)

variable [ContainerRuntime δ]

/-- What a change is resolved to by the answers of a runtime, and what is left of the runtime. -/
inductive Resolves (runtime : δ) (c : StateChange) : StateChange → δ → Prop
  | settled (has : c.isResolved = true ∨ c.state = .unknown) : Resolves runtime c c runtime
  | described (info : Container) (runtime' : δ) (runs : c.state = .running)
    (lacks : c.isResolved = false)
    (answer : ContainerRuntime.describe c.containerName runtime = (.done info,runtime')) :
    Resolves runtime c (c.withContainer info) runtime'
  | missed (n : String) (runtime' : δ) (runs : c.state = .running) (lacks : c.isResolved = false)
    (answer : ContainerRuntime.describe c.containerName runtime = (.failed (.notFound n),runtime')) :
    Resolves runtime c c runtime'

def Samples (collector : Collector) (runtime : δ) (n : String) : State → Prop
  | .running => collector.isCollecting n = true ∨
      ∃ o runtime',ContainerRuntime.openUsage n collector.channels.next runtime = (.done o,runtime')
  | .stopped => ∀ l ∈ collector.loops,l.name = n → l.phase ≠ .crashed
  | .unknown => True

inductive Reports (meterId : String) (k : Core δ ρ) : Message → Report → Prop
  | sampled (x : Sample) : Reports meterId k (.sample x) (.ofSample meterId x k.clock)
  | given (r : Report) : Reports meterId k (.report r) r
  | followed {msg : Message} {c c' : StateChange} {runtime : δ} (admitted : k.Admits msg c)
    (resolved : Resolves k.runtime c c' runtime)
    (sampled : Samples k.collector runtime c.containerName c.state) :
    Reports meterId k msg (.ofChange meterId c' k.clock)

variable [Backend ρ]

/-- How a message ends, and on which condition. -/
inductive Disposed (meterId : String) (k : Core δ ρ) : Message → Disposition → Prop
  | untrackable (info : Container) (h : k.registry.isTrackable info = false) :
    Disposed meterId k (.discovery info) .ignored
  | present (info : Container) (h : k.registry.isRegistered info.name = true) :
    Disposed meterId k (.discovery info) .ignored
  | untracked (c : StateChange) (h : k.registry.isRegistered c.containerName = false) :
    Disposed meterId k (.change c) .ignored
  | unresolved {msg : Message} {c : StateChange} {e : RuntimeError} {runtime : δ}
    (admitted : k.Admits msg c) (runs : c.state = .running) (lacks : c.isResolved = false)
    (answer : ContainerRuntime.describe c.containerName k.runtime = (.failed e,runtime))
    (known : ∀ n,e ≠ .notFound n) :
    Disposed meterId k msg (.failed ⟨"container_resolver",.resolving c.containerName e⟩)
  | unopened {msg : Message} {c c' : StateChange} {e : RuntimeError} {runtime runtime' : δ}
    (admitted : k.Admits msg c) (runs : c.state = .running)
    (resolved : Resolves k.runtime c c' runtime)
    (fresh : k.collector.isCollecting c.containerName = false)
    (answer : ContainerRuntime.openUsage c.containerName k.collector.channels.next runtime =
      (.failed e,runtime')) :
    Disposed meterId k msg (.failed ⟨"sample_collector",.opening c.containerName e⟩)
  | unstopped {msg : Message} {c : StateChange} {l : PollLoop} (admitted : k.Admits msg c)
    (stops : c.state = .stopped) (loop : l ∈ k.collector.loops) (own : l.name = c.containerName)
    (broken : l.phase = .crashed) :
    Disposed meterId k msg (.failed ⟨"sample_collector",.stopping c.containerName⟩)
  | refused {msg : Message} {r : Report} {e : DeliveryError} {backend : ρ}
    (reports : Reports meterId k msg r) (answer : Backend.deliver r k.backend = (.failed e,backend)) :
    Disposed meterId k msg (.failed ⟨"reporter",.reporting e⟩)
  | reported {msg : Message} {r : Report} {delivery : Delivery} {backend : ρ}
    (reports : Reports meterId k msg r)
    (answer : Backend.deliver r k.backend = (.done delivery,backend)) :
    Disposed meterId k msg (.reported r)
  | unhandled : Disposed meterId k .devnull .unhandled
  | crashedResolving {msg : Message} {c : StateChange} {runtime : δ} (admitted : k.Admits msg c)
    (runs : c.state = .running) (lacks : c.isResolved = false)
    (answer : ContainerRuntime.describe c.containerName k.runtime = (.crashed,runtime)) :
    Disposed meterId k msg (.crashed "container_resolver")
  | crashedOpening {msg : Message} {c c' : StateChange} {runtime runtime' : δ}
    (admitted : k.Admits msg c) (runs : c.state = .running)
    (resolved : Resolves k.runtime c c' runtime)
    (fresh : k.collector.isCollecting c.containerName = false)
    (answer : ContainerRuntime.openUsage c.containerName k.collector.channels.next runtime =
      (.crashed,runtime')) : Disposed meterId k msg (.crashed "sample_collector")
  | crashedReporting {msg : Message} {r : Report} {backend : ρ} (reports : Reports meterId k msg r)
    (answer : Backend.deliver r k.backend = (.crashed,backend)) :
    Disposed meterId k msg (.crashed "reporter")

theorem Reports.disposed_place (h : Reports meterId k msg r) :
    ∃ d,Disposed meterId k msg d ∧ d.place = "reporter" := by
  rcases hb : Backend.deliver r k.backend with ⟨o,backend⟩
  cases o with
  | done delivery => exact ⟨_,.reported h hb,rfl⟩
  | failed e => exact ⟨_,.refused h hb,rfl⟩
  | crashed => exact ⟨_,.crashedReporting h hb,rfl⟩

theorem Reports.disposed (h : Reports meterId k msg r) : ∃ d,Disposed meterId k msg d :=
  h.disposed_place.imp fun _ hd => hd.1

theorem Resolves.disposed {runtime : δ} (h : k.Admits msg c) (hs : c.state = .running)
    (hr : Resolves k.runtime c c' runtime) : ∃ d,Disposed meterId k msg d := by
  have hreports : Samples k.collector runtime c.containerName .running →
      ∃ d,Disposed meterId k msg d := fun hc => Reports.disposed (.followed h hr (hs ▸ hc))
  cases hc : k.collector.isCollecting c.containerName with
  | true => exact hreports (.inl hc)
  | false =>
    rcases ho : ContainerRuntime.openUsage c.containerName k.collector.channels.next runtime with
      ⟨a,runtime'⟩
    cases a with
    | done o => exact hreports (.inr ⟨o,runtime',ho⟩)
    | failed e => exact ⟨_,.unopened h hs hr hc ho⟩
    | crashed => exact ⟨_,.crashedOpening h hs hr hc ho⟩

omit [ContainerRuntime δ] [Backend ρ] in
theorem Admits.isResolved (h : k.Admits msg c) (hs : c.state = .stopped) : c.isResolved = true := by
  cases h with
  | discovered info => cases hs
  | changed c tracked goes => exact absurd hs goes
  | ended c tracked => exact StateChange.resolvedIn_isResolved tracked

theorem Admits.disposed (h : k.Admits msg c) : ∃ d,Disposed meterId k msg d := by
  cases hs : c.state with
  | running =>
    cases hc : c.isResolved with
    | true => exact Resolves.disposed h hs (.settled (.inl hc))
    | false =>
      rcases ha : ContainerRuntime.describe c.containerName k.runtime with ⟨a,runtime⟩
      cases a with
      | done info => exact Resolves.disposed h hs (.described info runtime hs hc ha)
      | failed e =>
        by_cases he : ∃ n,e = .notFound n
        · obtain ⟨n,rfl⟩ := he
          exact Resolves.disposed h hs (.missed n runtime hs hc ha)
        · exact ⟨_,.unresolved h hs hc ha fun n hn => he ⟨n,hn⟩⟩
      | crashed => exact ⟨_,.crashedResolving h hs hc ha⟩
  | stopped =>
    by_cases hl : ∃ l ∈ k.collector.loops,l.name = c.containerName ∧ l.phase = .crashed
    · obtain ⟨l,hl,hn,hp⟩ := hl
      exact ⟨_,.unstopped h hs hl hn hp⟩
    · refine Reports.disposed (.followed h (.settled (.inl (h.isResolved hs))) ?_)
      rw [hs]
      exact fun l hm hn hp => hl ⟨l,hm,hn,hp⟩
  | unknown =>
    refine Reports.disposed (.followed h (.settled (.inr hs)) ?_)
    rw [hs]
    trivial

theorem exists_disposed (meterId : String) (k : Core δ ρ) (msg : Message) :
    ∃ d,Disposed meterId k msg d := by
  cases msg with
  | discovery info =>
    cases ht : k.registry.isTrackable info with
    | false => exact ⟨_,.untrackable info ht⟩
    | true =>
      cases hn : k.registry.isRegistered info.name with
      | true => exact ⟨_,.present info hn⟩
      | false => exact Admits.disposed (.discovered info ht hn)
  | change c =>
    cases hn : k.registry.isRegistered c.containerName with
    | false => exact ⟨_,.untracked c hn⟩
    | true =>
      by_cases hs : c.state = .stopped
      · exact Admits.disposed (.ended c hn hs)
      · exact Admits.disposed (.changed c hn hs)
  | sample x => exact Reports.disposed (.sampled x)
  | report r => exact Reports.disposed (.given r)
  | devnull => exact ⟨_,.unhandled⟩

def fly (meterId : String) (g : Flight) (k : Core δ ρ) : Flight × Core δ ρ :=
  match g.fate with
  | some _ => (g,k)
  | none =>
    if g.passed < 8 then
      (g.land (k.pass meterId g.passed g.message).1,(k.pass meterId g.passed g.message).2)
    else ({ g with fate := some (.through g.message) },k)

theorem alone_core (s : ChainSettings) (n : Nat) (g : Flight) (m : Meter δ ρ) :
    Team.alone (fly s.meterId) n g m.core =
      ((Team.alone (Flight.step (Chain.standard s)) n g m).1,
        (Team.alone (Flight.step (Chain.standard s)) n g m).2.core) := by
  induction n generalizing g m with
  | zero => rfl
  | succ n ih =>
    have hs : fly s.meterId g m.core =
        ((Flight.step (Chain.standard s) g m).1,(Flight.step (Chain.standard s) g m).2.core) := by
      rcases Meter.step_cases s g m with ⟨hf,he⟩ | ⟨hf,hp,he⟩ | ⟨hf,hp,hl,hk⟩
      · obtain ⟨p,hp⟩ := Option.ne_none_iff_exists'.mp hf
        rw [he]
        simp [fly,hp]
      · rw [he]
        simp [fly,hf,Nat.not_lt.mpr hp]
      · rw [hl,hk]
        simp [fly,hf,hp]
    rw [Team.alone,hs]
    exact ih _ _

section

variable {i n : Nat} {p : Passage}

theorem alone_on (hi : i < 8) (h : k.pass meterId i msg = (.ok msg',l)) :
    Team.alone (fly meterId) (n+1) ⟨msg,i,none⟩ k = Team.alone (fly meterId) n ⟨msg',i+1,none⟩ l := by
  refine Team.alone_step ?_ n
  simp [fly,hi,h,Flight.land]

theorem alone_landed (hi : i < 8) (h : k.pass meterId i msg = (.error p,l)) :
    Team.alone (fly meterId) (n+1) ⟨msg,i,none⟩ k = (⟨msg,i,some p⟩,l) := by
  have hs : fly meterId ⟨msg,i,none⟩ k = (⟨msg,i,some p⟩,l) := by
    simp [fly,hi,h,Flight.land]
  rw [Team.alone_step hs]
  exact Team.alone_idle (f := fly meterId) rfl n

end

theorem alone_carried (h : ∀ i < 5,k.pass meterId i msg = (.ok msg,k)) (n : Nat) :
    Team.alone (fly meterId) (n+5) ⟨msg,0,none⟩ k = Team.alone (fly meterId) n ⟨msg,5,none⟩ k := by
  rw [alone_on (by decide) (h 0 (by decide)),alone_on (by decide) (h 1 (by decide)),
    alone_on (by decide) (h 2 (by decide)),alone_on (by decide) (h 3 (by decide)),
    alone_on (by decide) (h 4 (by decide))]

theorem Admits.alone (h : k.Admits msg c) (n : Nat) :
    Team.alone (fly meterId) (n+2) ⟨msg,0,none⟩ k =
      Team.alone (fly meterId) n ⟨.change c,2,none⟩ { k with registry := k.registry.heed msg } := by
  have hp : k.pass meterId 1 msg = (.ok (.change c),{ k with registry := k.registry.heed msg }) := by
    cases h with
    | discovered info trackable free =>
      exact enter_added (Registry.register_eq_added_iff.mpr ⟨trackable,free⟩)
    | changed c tracked goes =>
      rw [pass_change,check_tracked tracked goes]
      simp only [Registry.heed,if_neg goes]
    | ended c tracked stops =>
      rw [pass_change,check_stopped tracked stops]
      simp only [Registry.heed,if_pos stops]
  rw [alone_on (by decide) (show k.pass meterId 0 msg = (.ok msg,k) from rfl),alone_on (by decide) hp]

theorem Resolves.alone {runtime : δ} (h : Resolves k.runtime c c' runtime) (n : Nat) :
    Team.alone (fly meterId) (n+2) ⟨.change c,2,none⟩ k =
      Team.alone (fly meterId) n ⟨.change c',4,none⟩ { k with runtime } := by
  have hp : k.pass meterId 2 (.change c) = (.ok (.change c'),{ k with runtime }) := by
    rw [pass_resolve]
    cases h with
    | settled has =>
      rcases has with has | has
      · exact resolve_resolved has
      · exact resolve_unknown has
    | described info _ runs lacks answer =>
      rw [resolve_running runs,look_done lacks answer]
      rfl
    | missed m _ runs lacks answer =>
      rw [resolve_running runs,look_notFound lacks answer]
      rfl
  rw [alone_on (by decide) hp]
  exact alone_on (by decide) rfl

omit [ContainerRuntime δ] [Backend ρ] in
/-- A stop has no difficulty unless the loop of its name has crashed. -/
theorem halt_ok_of (h : k.collector.Sound) {n : String}
    (hl : ∀ l ∈ k.collector.loops,l.name = n → l.phase ≠ .crashed) : (k.halt n).1 = .ok () := by
  cases hc : k.collector.isCollecting n with
  | false => rw [halt_notFound (Collector.stop_notFound hc)]
  | true =>
    obtain ⟨g,hg⟩ := Option.isSome_iff_exists.mp hc
    obtain ⟨l,hm,-,rfl⟩ := h.driven n g hg
    rcases h.atRest l hm with hp | hp
    · rw [halt_channel (h.stop_polling hm hp)]
    · exact absurd hp (hl l hm rfl)

omit [Backend ρ] in
theorem Samples.sample (hs : k.collector.Sound)
    (h : Samples k.collector k.runtime c.containerName c.state) : (k.sample c).1 = .ok () := by
  cases hstate : c.state with
  | running =>
    rw [hstate] at h
    rw [sample_running hstate]
    cases hc : k.collector.isCollecting c.containerName with
    | true => rw [start_collecting hc]
    | false =>
      rcases h with h | ⟨o,runtime,ho⟩
      · rw [hc] at h
        cases h
      · rw [start_done hc ho]
  | stopped =>
    rw [hstate] at h
    rw [sample_stopped hstate]
    exact halt_ok_of hs h
  | unknown => rw [sample_unknown hstate]

omit [Backend ρ] in
theorem Resolves.state {runtime runtime' : δ} (h : Resolves runtime c c' runtime') :
    c'.state = c.state := by
  cases h <;> rfl

omit [Backend ρ] in
theorem Resolves.containerName [FaithfulRuntime δ] {runtime runtime' : δ}
    (h : Resolves runtime c c' runtime') (hv : FaithfulRuntime.Valid runtime) :
    c'.containerName = c.containerName := by
  cases h with
  | settled => rfl
  | described info runtime' _ _ answer => exact FaithfulRuntime.describe_name hv answer
  | missed => rfl

theorem alone_report (r : Report) (n : Nat) (k : Core δ ρ) :
    Team.alone (fly meterId) (n+1) ⟨.report r,6,none⟩ k =
      (⟨.report r,6,some (k.deliver r).1⟩,(k.deliver r).2) := alone_landed (by decide) rfl

theorem Reports.alone [FaithfulRuntime δ] (hs : k.collector.Sound) (hv : FaithfulRuntime.Valid k.runtime)
    (h : Reports meterId k msg r) :
    ∃ l : Core δ ρ,l.registry = k.registry.heed msg ∧ l.backend = k.backend ∧
      Team.alone (fly meterId) 9 ⟨msg,0,none⟩ k = (⟨.report r,6,some (l.deliver r).1⟩,(l.deliver r).2) := by
  cases h with
  | sampled x =>
    have hcarry : ∀ i < 5,k.pass meterId i (.sample x) = (.ok (.sample x),k)
      | 0,_ | 1,_ | 2,_ | 3,_ | 4,_ => rfl
    refine ⟨k,rfl,rfl,?_⟩
    rw [alone_carried hcarry,alone_on (i := 5) (by decide) rfl]
    exact alone_report _ 2 k
  | given r =>
    have hcarry : ∀ i < 5,k.pass meterId i (.report r) = (.ok (.report r),k)
      | 0,_ | 1,_ | 2,_ | 3,_ | 4,_ => rfl
    refine ⟨k,rfl,rfl,?_⟩
    rw [alone_carried hcarry,alone_on (i := 5) (by decide) rfl]
    exact alone_report r 2 k
  | followed admitted resolved sampled =>
    rename_i c c' runtime
    let k₁ : Core δ ρ := { k with registry := k.registry.heed msg, runtime }
    have hok : (k₁.sample c').1 = .ok () := by
      apply Samples.sample (k := k₁) hs
      rw [resolved.containerName hv,resolved.state]
      exact sampled
    have hk := sample_keeps c' k₁
    have hp : k₁.pass meterId 4 (.change c') = (.ok (.change c'),(k₁.sample c').2) := by
      rw [pass_sample,hok]
      rfl
    have hr : (k₁.sample c').2.pass meterId 5 (.change c') =
        (.ok (.report (.ofChange meterId c' k.clock)),(k₁.sample c').2) := by
      have hclock : (k₁.sample c').2.clock = k.clock := hk.clock
      rw [← hclock]
      rfl
    refine ⟨(k₁.sample c').2,hk.registry,hk.backend,?_⟩
    rw [admitted.alone,Resolves.alone (k := { k with registry := k.registry.heed msg }) resolved,
      alone_on (by decide) hp,alone_on (by decide) hr]
    exact alone_report _ 2 _

/-- What a message leaves behind that has ended in some way. -/
structure Left (meterId : String) (k : Core δ ρ) (msg : Message) (d : Disposition) (l : Core δ ρ) :
    Prop where
  registry : l.registry = k.registry.heed msg
  ignored : d = .ignored → l = k
  collected : d.place ≠ "reporter" →
    ∀ n,l.collector.isCollecting n = true → k.collector.isCollecting n = true
  backend : l.backend = k.backend ∨
    ∃ r,Reports meterId k msg r ∧ l.backend = (Backend.deliver r k.backend).2

structure ComesTo (s : ChainSettings) (k : Core δ ρ) (msg : Message) (d : Disposition) : Prop where
  ends : (Team.alone (fly s.meterId) 9 { message := msg } k).1.Ends
    (Chain.standard s : List (Filter (Meter δ ρ))) d
  left : Left s.meterId k msg d (Team.alone (fly s.meterId) 9 { message := msg } k).2

theorem Left.quiet (hr : l.registry = k.registry.heed msg) (hb : l.backend = k.backend)
    (hc : ∀ n,l.collector.isCollecting n = true → k.collector.isCollecting n = true)
    (hd : d ≠ .ignored) : Left meterId k msg d l := ⟨hr,fun h => absurd h hd,fun _ => hc,.inl hb⟩

section

variable {s : ChainSettings} {i : Nat} {p : Passage}

theorem comesTo (ha : Team.alone (fly s.meterId) 9 ⟨msg,0,none⟩ k = (⟨msg',i,some p⟩,l))
    (hp : p = d.passage)
    (hplace : (Pipeline.names (Chain.standard s : List (Filter (Meter δ ρ))))[i]? = some d.place)
    (hreport : ∀ r,d = .reported r → msg' = .report r) (hl : Left s.meterId k msg d l) :
    ComesTo s k msg d where
  ends := by
    rw [ha]
    exact ⟨congrArg some hp,hplace,hreport⟩
  left := by
    rw [ha]
    exact hl

theorem comesTo_ignored (h : k.pass s.meterId 1 msg = (.error .stopped,k)) :
    ComesTo s k msg .ignored := by
  have ha : Team.alone (fly s.meterId) 9 ⟨msg,0,none⟩ k = (⟨msg,1,some .stopped⟩,k) := by
    rw [alone_on (i := 0) (by decide) rfl]
    exact alone_landed (by decide) h
  have hr := pass_heed s.meterId msg k
  rw [h] at hr
  exact comesTo ha rfl rfl (fun r hr => by cases hr) ⟨hr,fun _ => rfl,fun _ _ h => h,.inl rfl⟩

theorem Admits.alone_resolver (h : k.Admits msg c) (hs : c.state = .running)
    (hp : Core.look c { k with registry := k.registry.heed msg } = (.error p,l)) :
    Team.alone (fly s.meterId) 9 ⟨msg,0,none⟩ k = (⟨.change c,2,some p⟩,l) := by
  rw [h.alone]
  refine alone_landed (by decide) ?_
  rw [pass_resolve,resolve_running hs,hp]
  rfl

theorem Resolves.alone_collector {runtime : δ} (h : k.Admits msg c)
    (hr : Resolves k.runtime c c' runtime)
    (hp : Core.sample c' { k with registry := k.registry.heed msg, runtime } = (.error p,l)) :
    Team.alone (fly s.meterId) 9 ⟨msg,0,none⟩ k = (⟨.change c',4,some p⟩,l) := by
  rw [h.alone,Resolves.alone (k := { k with registry := k.registry.heed msg }) hr]
  refine alone_landed (by decide) ?_
  rw [pass_sample,hp]
  rfl

end

theorem Reports.comesTo [FaithfulRuntime δ] (s : ChainSettings) (hs : k.collector.Sound)
    (hv : FaithfulRuntime.Valid k.runtime) (h : Reports s.meterId k msg r)
    (hp : Passage.ofDelivery (Backend.deliver r k.backend).1 = d.passage)
    (hplace : d.place = "reporter") (hreport : ∀ r',d = .reported r' → r = r') (hd : d ≠ .ignored) :
    ComesTo s k msg d := by
  obtain ⟨l,hreg,hback,ha⟩ := h.alone hs hv
  have hp' : (l.deliver r).1 = d.passage := by rw [deliver,hback,hp]
  refine Core.comesTo ha hp' (hplace ▸ rfl) (fun r' hr' => by rw [hreport r' hr']) ?_
  refine ⟨hreg,fun h => absurd h hd,fun h => absurd hplace h,.inr ⟨r,h,?_⟩⟩
  rw [deliver,hback]

theorem Disposed.comesTo [FaithfulRuntime δ] (s : ChainSettings) (hs : k.collector.Sound)
    (hv : FaithfulRuntime.Valid k.runtime) (h : Disposed s.meterId k msg d) : ComesTo s k msg d := by
  cases h with
  | untrackable info h =>
    apply comesTo_ignored
    rw [pass_discovery]
    exact enter_refused (by simp [Registry.register_untrackable h])
  | present info h =>
    apply comesTo_ignored
    rw [pass_discovery]
    exact enter_refused fun ha => by simp [(Registry.register_eq_added_iff.mp ha).2] at h
  | untracked c h =>
    apply comesTo_ignored
    rw [pass_change]
    exact check_untracked h
  | unresolved admitted runs lacks answer known =>
    have hp := look_failed (k := { k with registry := k.registry.heed msg }) lacks answer known
    exact Core.comesTo (admitted.alone_resolver runs hp) rfl rfl (fun r hr => by cases hr)
      (.quiet rfl rfl (fun _ h => h) (by simp))
  | @unopened _ c c' e runtime runtime' admitted runs resolved fresh answer =>
    have hn := resolved.containerName hv
    have hp := start_failed (k := { k with registry := k.registry.heed msg, runtime })
      (hn.symm ▸ fresh) (hn.symm ▸ answer)
    rw [← sample_running (resolved.state.trans runs),hn] at hp
    exact Core.comesTo (resolved.alone_collector admitted hp) rfl rfl (fun r hr => by cases hr)
      (.quiet rfl rfl (fun _ h => h) (by simp))
  | @unstopped _ c l admitted stops loop own broken =>
    have hp := halt_lost (k := { k with registry := k.registry.heed msg })
      (hs.stop_crashed loop broken)
    rw [own,← sample_stopped stops] at hp
    have hc : ∀ n,(k.collector.without l).isCollecting n = true → k.collector.isCollecting n = true := by
      intro n h
      have h : (k.collector.entries.erase l.name).contains n = true := h
      rw [Table.contains_erase,Bool.and_eq_true] at h
      exact h.2
    exact Core.comesTo (Resolves.alone_collector admitted (.settled (.inl (admitted.isResolved stops))) hp)
      rfl rfl (fun r hr => by cases hr) (.quiet rfl rfl hc (by simp))
  | refused reports answer =>
    exact reports.comesTo s hs hv (by rw [answer]; rfl) rfl (fun r' hr' => by cases hr') (by simp)
  | reported reports answer =>
    refine reports.comesTo s hs hv (by rw [answer]; rfl) rfl ?_ (by simp)
    intro r' hr'
    cases hr'
    rfl
  | unhandled =>
    have hcarry : ∀ i < 5,k.pass s.meterId i .devnull = (.ok .devnull,k)
      | 0,_ | 1,_ | 2,_ | 3,_ | 4,_ => rfl
    have ha : Team.alone (fly s.meterId) 9 ⟨.devnull,0,none⟩ k = (⟨.devnull,7,some .stopped⟩,k) := by
      rw [alone_carried hcarry,alone_on (i := 5) (by decide) rfl,alone_on (i := 6) (by decide) rfl]
      exact alone_landed (by decide) rfl
    exact Core.comesTo ha rfl rfl (fun r hr => by cases hr) (.quiet rfl rfl (fun _ h => h) (by simp))
  | crashedResolving admitted runs lacks answer =>
    have hp := look_crashed (k := { k with registry := k.registry.heed msg }) lacks answer
    exact Core.comesTo (admitted.alone_resolver runs hp) rfl rfl (fun r hr => by cases hr)
      (.quiet rfl rfl (fun _ h => h) (by simp))
  | @crashedOpening _ c c' runtime runtime' admitted runs resolved fresh answer =>
    have hn := resolved.containerName hv
    have hp := start_crashed (k := { k with registry := k.registry.heed msg, runtime })
      (hn.symm ▸ fresh) (hn.symm ▸ answer)
    rw [← sample_running (resolved.state.trans runs)] at hp
    exact Core.comesTo (resolved.alone_collector admitted hp) rfl rfl (fun r hr => by cases hr)
      (.quiet rfl rfl (fun _ h => h) (by simp))
  | crashedReporting reports answer =>
    exact reports.comesTo s hs hv (by rw [answer]; rfl) rfl (fun r' hr' => by cases hr') (by simp)

end Core

theorem Core.Reports.backend [ContainerRuntime δ] [FaithfulRuntime δ] [Backend ρ] {k : Core δ ρ}
    {meterId : String} {msg : Message} {r : Report} (hs : k.collector.Sound)
    (hv : FaithfulRuntime.Valid k.runtime) (h : Reports meterId k msg r) :
    (Team.alone (fly meterId) 9 { message := msg } k).2.backend = (Backend.deliver r k.backend).2 := by
  obtain ⟨l,-,hback,ha⟩ := h.alone hs hv
  rw [ha,← hback]
  rfl

/-- As long as a meter is in order there is one way for a message to end, by its conditions and in fact. -/
theorem Meter.disposed [ContainerRuntime δ] [FaithfulRuntime δ] [Backend ρ] (s : ChainSettings)
    {m : Meter δ ρ} (hs : m.collector.Sound) (hv : FaithfulRuntime.Valid m.runtime) (msg : Message) :
    let fs : List (Filter (Meter δ ρ)) := Chain.standard s
    ∃ d,(∀ d',(Team.alone (Flight.step fs) 9 { message := msg } m).1.Ends fs d' ↔ d' = d) ∧
      (∀ d',Core.Disposed s.meterId m.core msg d' ↔ d' = d) ∧ (m.send s msg).1 = d.passage ∧
      Core.Left s.meterId m.core msg d (m.send s msg).2.core := by
  intro fs
  obtain ⟨d,hd⟩ := Core.exists_disposed s.meterId m.core msg
  have hcore := Core.alone_core s 9 { message := msg } m
  obtain ⟨hfate,hstate⟩ := Meter.alone_send s msg m
  have hends : ∀ d',Core.Disposed s.meterId m.core msg d' →
      (Team.alone (Flight.step fs) 9 { message := msg } m).1.Ends fs d' := by
    intro d' hd'
    have he := (hd'.comesTo s hs hv).ends
    rw [hcore] at he
    exact he
  have hleft := (hd.comesTo s hs hv).left
  rw [hcore,hstate] at hleft
  refine ⟨d,fun d' => ⟨fun h => h.unique (hends d hd),?_⟩,fun d' => ⟨?_,?_⟩,?_,hleft⟩
  · rintro rfl
    exact hends d' hd
  · exact fun hd' => (hends d' hd').unique (hends d hd)
  · rintro rfl
    exact hd
  · exact Option.some.inj (hfate.symm.trans (hends d hd).fate)

theorem Core.Left.handed [ContainerRuntime δ] [Backend ρ] {k l : Core δ (Tapped ρ)} {meterId : String}
    {msg : Message} {d : Disposition} (h : Left meterId k msg d l)
    (hone : ∀ d',Disposed meterId k msg d' → d' = d)
    (hl : ∀ r,Reports meterId k msg r → l.backend = (Backend.deliver r k.backend).2) :
    ∃ rs,l.backend.handed = k.backend.handed++rs ∧ rs.length ≤ 1 ∧
      (∀ r,r ∈ rs ↔ Reports meterId k msg r) ∧ (d.place ≠ "reporter" → rs = []) := by
  by_cases hr : ∃ r,Reports meterId k msg r
  · obtain ⟨r,hr⟩ := hr
    have hh : ∀ r',Reports meterId k msg r' → l.backend.handed = k.backend.handed++[r'] :=
      fun r' hr' => congrArg Tapped.handed (hl r' hr')
    refine ⟨[r],hh r hr,Nat.le_refl 1,fun r' => ⟨?_,?_⟩,?_⟩
    · intro hm
      rw [List.mem_singleton.mp hm]
      exact hr
    · intro hr'
      have heq := List.append_cancel_left ((hh r hr).symm.trans (hh r' hr'))
      rw [heq]
      exact List.mem_singleton.mpr rfl
    · intro hplace
      obtain ⟨d',hd',hp⟩ := hr.disposed_place
      rw [hone d' hd'] at hp
      exact absurd hp hplace
  · have hb : l.backend = k.backend := by
      rcases h.backend with hb | ⟨r,hr',-⟩
      · exact hb
      · exact absurd ⟨r,hr'⟩ hr
    refine ⟨[],by rw [hb,List.append_nil],Nat.zero_le 1,fun r => ⟨?_,?_⟩,fun _ => rfl⟩
    · intro hm
      cases hm
    · exact fun hr' => absurd ⟨r,hr'⟩ hr

namespace Watched

variable [ContainerRuntime δ] [FaithfulRuntime δ] [Backend ρ] {m : Watched δ ρ}

/-- Whatever a meter has been through, whoever is still under way, and whatever runtime and backend answer:
a message that is sent ends in one way, which is the one whose condition is met, and in no other. The
registry follows the message, also when it fails further on. Nothing at all changes for a message that the
registry holds back. The report that a message comes to is handed over once, and no other report; and
before a message is handed over as a report, no failure makes a name be collected. -/
theorem disposed_once (s : ChainSettings) (acts : List (Act δ ρ)) (ms : List Message)
    (moves : List (Move δ ρ)) (hm : m.Blank) (hv : FaithfulRuntime.Valid m.runtime)
    (ha : Along s (fun a _ => a.Valid) acts m) (hmoves : ∀ x ∈ moves,x.Valid) (msg : Message) :
    let fs : List (Filter (Watched δ ρ)) := Chain.standard s
    let m' := (Traffic.run s moves (.ofMessages ms (run s acts m))).state
    let l := (m'.send s msg).2
    ∃ d,(∀ d',(Team.alone (Flight.step fs) 9 { message := msg } m').1.Ends fs d' ↔ d' = d) ∧
      (∀ d',Core.Disposed s.meterId m'.core msg d' ↔ d' = d) ∧ (m'.send s msg).1 = d.passage ∧
      l.registry = m'.registry.heed msg ∧ (d = .ignored → l.core = m'.core) ∧
      ∃ rs,l.backend.handed = m'.backend.handed++rs ∧ rs.length ≤ 1 ∧
        (∀ r,r ∈ rs ↔ Core.Reports s.meterId m'.core msg r) ∧
        (d.place ≠ "reporter" → rs = [] ∧
          ∀ n,l.collector.isCollecting n = true → m'.collector.isCollecting n = true) := by
  intro fs m' l
  have hst := steady_run (hm.steady hv) ha
  obtain ⟨ho,hval⟩ := Traffic.run_orderly (s := s) (t := .ofMessages ms (run s acts m)) hmoves
    hst.toOrderly hst.valid
  obtain ⟨d,hends,hd,hpassage,hleft⟩ := Meter.disposed s ho.sound hval msg
  have hbackend : ∀ r,Core.Reports s.meterId m'.core msg r →
      l.core.backend = (Backend.deliver r m'.core.backend).2 := by
    intro r hr
    rw [← hr.backend ho.sound hval,Core.alone_core,(Meter.alone_send s msg m').2]
  obtain ⟨rs,hh,hlen,hmem,hplace⟩ := hleft.handed (fun d' => (hd d').mp) hbackend
  exact ⟨d,hends,hd,hpassage,hleft.registry,hleft.ignored,rs,hh,hlen,hmem,fun hp =>
    ⟨hplace hp,hleft.collected hp⟩⟩

def deserted : List (Act Fleet Inbox) := [.incident (.turn {} {} 3)]

/-- The discovery of such a container fails at the collector. It is registered all the same, and nothing is
reported. -/
theorem disposed_once_deserted :
    let m := (Traffic.run chain [] (.ofMessages [] (run chain deserted small))).state
    (m.send chain (.discovery web)).1 = .failed ⟨"sample_collector",.opening "web" (.notFound "web")⟩ ∧
      (m.send chain (.discovery web)).2.registry.isRegistered "web" = true ∧
      (m.send chain (.discovery web)).2.backend.handed = [] := by
  obtain ⟨d,-,hd,hp,hr,-,rs,hh,-,-,hq⟩ := disposed_once chain deserted [] [] small_blank
    (Fleet.keyed_ofContainers [web]) ⟨Fleet.keyed_empty,trivial⟩ (by simp) (.discovery web)
  have hfails := (hd _).mp (.unopened (e := .notFound "web") (.discovered web (by decide) (by decide)) rfl
    (.settled (.inl rfl)) (by decide) rfl)
  subst hfails
  rw [(hq (by decide)).1] at hh
  refine ⟨hp,?_,hh⟩
  rw [hr]
  decide

end Watched

end HostMeter
