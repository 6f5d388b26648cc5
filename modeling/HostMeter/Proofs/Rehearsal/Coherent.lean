import HostMeter.Proofs.Collector.Labels
import HostMeter.Proofs.Runtime.Faithful
import HostMeter.Proofs.Workers.Openings
import HostMeter.Rehearsal
set_option autoImplicit false

/-! A rehearsed meter, whatever has been done with it, keeps under the name of a container only what belongs
to that container: its descriptor, a loop that looks into a channel of its readings, and the channel that the
runtime fills. -/

namespace HostMeter

abbrev Rehearsed := Core (FailingRuntime Fleet) (FailingBackend Inbox)

namespace Collector

theorem within_acquire (o : Opening) (c : Collector) : c.channels.Within (c.acquire o).channels := by
  unfold acquire
  cases o.abandoned with
  | none => exact UsageChannels.within_add _
  | some i => exact (UsageChannels.within_add _).trans (UsageChannels.within_modify i _)

theorem carries_acquire (o : Opening) (c : Collector) :
    (c.acquire o).channels.Carries c.channels.next o.container.name := by
  have hg : (c.channels.add ⟨o.container,.ofPlaces o.places⟩).Carries c.channels.next o.container.name := by
    simp [UsageChannels.Carries,UsageChannels.get?_add_next]
  unfold acquire
  cases o.abandoned with
  | none => exact hg
  | some i => exact UsageChannels.within_modify i _ _ _ hg

end Collector

namespace FailingRuntime

variable {r : FailingRuntime Fleet} {n : String}

def answer (fault : Option CallFault) (n : String) (r : FailingRuntime Fleet) :
    Outcome RuntimeError Container :=
  match fault with
  | some (.error e) => .failed e
  | some .crash => .crashed
  | _ => r.inner.describe? n

def supply (n : String) (i : ChannelId) (r : FailingRuntime Fleet) : FailingRuntime Fleet :=
  { r with inner := { r.inner with
      feeds := r.inner.feeds.insert n i
      opened := r.inner.opened.insert n (r.inner.openedCount n+1) } }

def opening (n : String) (c : Container) (r : FailingRuntime Fleet) : Opening where
  container := c
  places := Fleet.usagePlaces
  abandoned := r.inner.feeds.get? n
  notices := [.usageOpened n]

theorem describe_answer (n : String) (r : FailingRuntime Fleet) :
    ContainerRuntime.describe n r = (r.answer r.faults.describe n,r) := by
  show guarded r.faults.describe (ContainerRuntime.describe n) r = _
  unfold guarded answer
  rcases r.faults.describe with _ | _ | _ | _ <;> rfl

theorem openUsage_answer (n : String) (i : ChannelId) (r : FailingRuntime Fleet) :
    ContainerRuntime.openUsage n i r =
      match r.answer r.faults.openUsage n with
      | .done c => (.done (r.opening n c),r.supply n i)
      | .failed e => (.failed e,r)
      | .crashed => (.crashed,r) := by
  have ho : Fleet.openUsage n i r.inner =
      match r.inner.describe? n with
      | .done c => (.done (r.opening n c),(r.supply n i).inner)
      | .failed e => (.failed e,r.inner)
      | .crashed => (.crashed,r.inner) := by
    unfold Fleet.openUsage Fleet.describe?
    cases r.inner.containers.get? n <;> rfl
  show guarded r.faults.openUsage (Fleet.openUsage n i) r = _
  unfold guarded answer
  rcases r.faults.openUsage with _ | _ | _ | _
  · rw [ho]
    cases r.inner.describe? n <;> rfl
  · rfl
  · rfl
  · rw [ho]
    cases r.inner.describe? n <;> rfl

theorem answer_name (h : r.inner.Keyed) {fault : Option CallFault} {c : Container}
    (ha : r.answer fault n = .done c) : c.name = n := by
  unfold answer at ha
  split at ha
  · cases ha
  · cases ha
  · unfold Fleet.describe? at ha
    split at ha
    · rename_i hc
      cases ha
      exact h n c hc
    · cases ha

end FailingRuntime

namespace Core

variable {k : Rehearsed} {n : String} {c : StateChange}

def looked (c : StateChange) (a : Outcome RuntimeError Container) : Except Passage StateChange :=
  if c.isResolved then .ok c
  else
    match a with
    | .done info => .ok (c.withContainer info)
    | .failed (.notFound _) => .ok c
    | .failed e => .error (.failed ⟨"container_resolver",.resolving c.containerName e⟩)
    | .crashed => .error .crashed

theorem look_eq (c : StateChange) (k : Rehearsed) :
    k.look c = (looked c (k.runtime.answer k.runtime.faults.describe c.containerName),k) := by
  unfold look looked
  rw [FailingRuntime.describe_answer]
  split
  · rfl
  · rcases k.runtime.answer k.runtime.faults.describe c.containerName with _ | e | _
    · rfl
    · cases e <;> rfl
    · rfl

theorem resolve_same (c : StateChange) (k : Rehearsed) : (k.resolve c).2 = k := by
  unfold resolve
  split
  · rw [look_eq]
  · rfl
  · rfl

/-- The core behind the opening of a channel for a container, which is sampled from then on. -/
def opened (n : String) (info : Container) (k : Rehearsed) : Rehearsed :=
  { k with
    runtime := k.runtime.supply n k.collector.channels.next
    collector :=
      ((k.collector.acquire (k.runtime.opening n info)).collect k.collector.channels.next).2.1 }

theorem start_eq (h : k.collector.isCollecting n = false) :
    k.start n =
      match k.runtime.answer k.runtime.faults.openUsage n with
      | .done info => (.ok (),k.opened n info)
      | .failed e => (.error (.failed ⟨"sample_collector",.opening n e⟩),k)
      | .crashed => (.error .crashed,k) := by
  unfold start
  rw [FailingRuntime.openUsage_answer,h]
  cases k.runtime.answer k.runtime.faults.openUsage n <;> rfl

/-- What is kept under a name belongs to the container of that name. -/
structure Coherent (k : Rehearsed) : Prop extends k.Orderly where
  known : k.runtime.inner.Keyed
  labelled : k.collector.Labelled
  fed : ∀ n i,k.runtime.inner.feeds.get? n = some i → k.collector.channels.Carries i n

variable {l : Rehearsed} {d : Collector} {r : Registry} {info : Container}

theorem Coherent.registry (h : k.Coherent) (hr : r.Keyed) : Coherent { k with registry := r } :=
  ⟨⟨hr,h.sound⟩,h.known,h.labelled,h.fed⟩

theorem Coherent.collector (h : k.Coherent) (hs : d.Sound) (hl : d.Labelled)
    (hc : k.collector.channels.Within d.channels) : Coherent { k with collector := d } :=
  ⟨⟨h.keyed,hs⟩,h.known,hl,fun n i hi => hc i n (h.fed n i hi)⟩

/-- The channels behind an opening: a loop that cannot wait closes its channel at once. -/
def provided (n : String) (info : Container) (k : Rehearsed) : UsageChannels :=
  if k.collector.CanWait then (k.collector.acquire (k.runtime.opening n info)).channels
  else (k.collector.acquire (k.runtime.opening n info)).channels.close k.collector.channels.next

theorem opened_collector (h : k.collector.isCollecting n = false) (hi : info.name = n) :
    (k.opened n info).collector = { k.collector with
      entries := k.collector.entries.insert n k.collector.nextGeneration
      loops := k.collector.loops++[k.collector.freshLoop n k.collector.channels.next]
      nextGeneration := k.collector.nextGeneration+1
      channels := k.provided n info } := by
  have hn := (Collector.acquire_name (k.runtime.opening n info) k.collector).trans hi
  have hc : (k.collector.acquire (k.runtime.opening n info)).isCollecting
      ((k.collector.acquire (k.runtime.opening n info)).channels.name k.collector.channels.next) = false := by
    rw [hn,Collector.isCollecting_eq,Collector.acquire_entries]
    exact h
  simp only [opened,Collector.collect_started hc,hn,provided]
  unfold Collector.acquire Collector.freshLoop Collector.CanWait
  cases (k.runtime.opening n info).abandoned <;>
    by_cases hw : k.collector.now+k.collector.rateMs < Collector.lastInstant <;> simp [hw]

theorem Coherent.opened (h : k.Coherent) (hi : info.name = n) : (k.opened n info).Coherent := by
  subst hi
  have hnext := Collector.carries_acquire (k.runtime.opening info.name info) k.collector
  have hacquire := Collector.within_acquire (k.runtime.opening info.name info) k.collector
  have hcollect := Collector.within_collect k.collector.channels.next
    (k.collector.acquire (k.runtime.opening info.name info))
  refine ⟨⟨h.keyed,(h.sound.acquire _).collect _⟩,h.known,?_,?_⟩
  · refine Collector.Labelled.collect (h.labelled.retained ?_ hacquire) hnext
    refine .of_subset ?_
    rw [Collector.acquire_loops]
    exact List.Subset.refl _
  · intro m i hm
    have hm : (k.runtime.inner.feeds.insert info.name k.collector.channels.next).get? m = some i := hm
    rw [Table.get?_insert] at hm
    split at hm
    · rename_i hmn
      cases hm
      rw [hmn]
      exact hcollect _ _ hnext
    · exact hcollect _ _ (hacquire _ _ (h.fed m i hm))

theorem halt_idle (h : k.collector.isCollecting n = false) : k.halt n = (.ok (),k) := by
  rw [halt_notFound (Collector.stop_notFound h)]

theorem halt_polling (h : k.collector.Sound) {x : PollLoop} (hx : x ∈ k.collector.loops)
    (hn : x.name = n) (hp : x.phase = .polling) :
    k.halt n = (.ok (),{ k with collector := { k.collector.without x with
      channels := k.collector.channels.close x.channel } }) := by
  subst hn
  rw [halt_channel (h.stop_polling hx hp)]
  rfl

theorem halt_crashed (h : k.collector.Sound) {x : PollLoop} (hx : x ∈ k.collector.loops)
    (hn : x.name = n) (hp : x.phase = .crashed) :
    k.halt n =
      (.error (.failed ⟨"sample_collector",.stopping n⟩),
        { k with collector := k.collector.without x }) := by
  subst hn
  rw [halt_lost (h.stop_crashed hx hp)]

/-- All that a filter can do to a meter over a message about a container. -/
inductive Touches (a : String) (k : Rehearsed) : Rehearsed → Prop
  | nothing : Touches a k k
  | registry (r : Registry) (keyed : r.Keyed) (policy : r.policy = k.registry.policy)
    (others : ∀ n,n ≠ a → r.get? n = k.registry.get? n) : Touches a k { k with registry := r }
  | opened (info : Container) (name : info.name = a) (fresh : k.collector.isCollecting a = false) :
    Touches a k (k.opened a info)
  | halted (x : PollLoop) (mem : x ∈ k.collector.loops) (name : x.name = a) (channels : UsageChannels)
    (closed : channels = k.collector.channels ∨ channels = k.collector.channels.close x.channel) :
    Touches a k { k with collector := { k.collector.without x with channels } }
  | delivered (x : Report) (about : x.containerName = a) : Touches a k (k.deliver x).2

theorem Touches.coherent {a : String} (h : Touches a k l) (hk : k.Coherent) : l.Coherent := by
  cases h with
  | nothing => exact hk
  | registry r keyed => exact hk.registry keyed
  | opened info name => exact hk.opened name
  | halted x mem _ channels closed =>
    have hw : k.collector.channels.Within channels := by
      rcases closed with rfl | rfl
      · exact .refl _
      · exact UsageChannels.within_modify x.channel _
    refine hk.collector ((hk.sound.without mem).congr rfl rfl rfl) ?_ hw
    exact hk.labelled.retained (.of_subset (List.filter_subset_self _)) hw
  | delivered x => exact ⟨⟨hk.keyed,hk.sound⟩,hk.known,hk.labelled,hk.fed⟩

theorem start_touches (h : k.Coherent) (n : String) : Touches n k (k.start n).2 := by
  cases hc : k.collector.isCollecting n with
  | true =>
    rw [start_collecting hc]
    exact .nothing
  | false =>
    rw [start_eq hc]
    cases ha : k.runtime.answer k.runtime.faults.openUsage n with
    | done info => exact .opened info (FailingRuntime.answer_name h.known ha) hc
    | failed e => exact .nothing
    | crashed => exact .nothing

theorem halt_touches (h : k.Coherent) (n : String) : Touches n k (k.halt n).2 := by
  cases hp : k.collector.poll? n with
  | none =>
    rw [halt_idle (h.sound.isCollecting_of_poll?_eq_none hp)]
    exact .nothing
  | some x =>
    obtain ⟨hx,hn⟩ := h.sound.poll?_eq_some_iff.mp hp
    rcases h.sound.atRest x hx with hph | hph
    · rw [halt_polling h.sound hx hn hph]
      exact .halted x hx hn _ (.inr rfl)
    · rw [halt_crashed h.sound hx hn hph]
      exact .halted x hx hn _ (.inl rfl)

theorem sample_touches (h : k.Coherent) (c : StateChange) :
    Touches c.containerName k (k.sample c).2 := by
  unfold sample
  cases c.state with
  | running => exact start_touches h c.containerName
  | stopped => exact halt_touches h c.containerName
  | unknown => exact .nothing

theorem enter_touches (h : k.Coherent) (info : Container) : Touches info.name k (k.enter info).2 := by
  by_cases ha : (k.registry.register info).1 = .added
  · rw [enter_added ha]
    refine .registry _ (h.keyed.register info) (Registry.register_policy _ info) ?_
    intro n hn
    rw [Registry.get?_register,if_neg fun hr => hn hr.2]
  · rw [enter_refused ha]
    exact .nothing

theorem check_touches (h : k.Coherent) (c : StateChange) :
    Touches c.containerName k (k.check c).2 := by
  cases hn : k.registry.isRegistered c.containerName with
  | false =>
    rw [check_untracked hn]
    exact .nothing
  | true =>
    by_cases hs : c.state = .stopped
    · rw [check_stopped hn hs]
      refine .registry _ (h.keyed.drop _) rfl ?_
      intro n hne
      rw [Registry.get?_drop,if_neg hne]
    · rw [check_tracked hn hs]
      exact .nothing

end Core

def Message.subject? : Message → Option String
  | .discovery c => some c.name
  | .change c => some c.containerName
  | .sample x => some x.container.name
  | .report r => some r.containerName
  | .devnull => none

namespace Core

variable {k l : Rehearsed} {msg msg' : Message} {a meterId : String} {i : Nat}

theorem pass_touches (h : k.Coherent) (hm : msg.subject? = some a) (meterId : String) (i : Nat) :
    Touches a k (k.pass meterId i msg).2 := by
  unfold pass
  split
  · cases hm
    exact enter_touches h _
  · cases hm
    exact check_touches h _
  · rw [resolve_same]
    exact .nothing
  · cases hm
    exact start_touches h _
  · cases hm
    exact sample_touches h _
  · exact .nothing
  · exact .nothing
  · cases hm
    exact .delivered _ rfl
  · exact .nothing
  · exact .nothing

theorem pass_devnull (k : Rehearsed) (i : Nat) : (k.pass meterId i .devnull).2 = k := by
  unfold pass
  split <;> first | rfl | rename_i h; cases h

theorem enter_subject {info : Container} (hp : k.enter info = (.ok msg',l)) :
    msg'.subject? = some info.name := by
  by_cases ha : (k.registry.register info).1 = .added
  · rw [enter_added ha] at hp
    cases hp
    rfl
  · rw [enter_refused ha] at hp
    cases hp

theorem check_subject {c : StateChange} (h : k.registry.Keyed) (hp : k.check c = (.ok msg',l)) :
    msg'.subject? = some c.containerName := by
  cases hn : k.registry.isRegistered c.containerName with
  | false =>
    rw [check_untracked hn] at hp
    cases hp
  | true =>
    by_cases hs : c.state = .stopped
    · rw [check_stopped hn hs] at hp
      cases hp
      exact congrArg some (StateChange.resolvedIn_containerName h c)
    · rw [check_tracked hn hs] at hp
      cases hp
      rfl

/-- A message stays about the same container, though its name may come from elsewhere. -/
theorem pass_subject (h : k.Coherent) (hm : msg.subject? = some a)
    (hp : k.pass meterId i msg = (.ok msg',l)) : msg'.subject? = some a := by
  unfold pass at hp
  split at hp
  · exact (enter_subject hp).trans hm
  · exact (check_subject h.keyed hp).trans hm
  · obtain ⟨c',rfl,-,hc⟩ := resolve_ok h.known h.keyed hp
    exact (congrArg some hc).trans hm
  · rename_i info
    rcases hs : k.start info.name with ⟨o,k'⟩
    rw [hs] at hp
    cases o <;> cases hp
    exact hm
  · rename_i c
    rcases hs : k.sample c with ⟨o,k'⟩
    rw [hs] at hp
    cases o <;> cases hp
    exact hm
  all_goals cases hp <;> exact hm

/-- What filters keep with all they do about a container, a send of a message about it keeps. -/
theorem send_induction {P : Rehearsed → Prop}
    (step : ∀ k l : Rehearsed,k.Coherent → Touches a k l → P k → P l) (meterId : String)
    (hm : msg.subject? = some a) (hk : k.Coherent) (h : P k) : P (k.send meterId msg).2 := by
  have hall : ∀ (is : List Nat) (msg : Message) (k : Rehearsed),
      msg.subject? = some a → k.Coherent → P k → P (k.passAll meterId is msg).2 := by
    intro is
    induction is with
    | nil => exact fun _ _ _ _ h => h
    | cons i is ih =>
      intro msg k hm hk h
      have ht := pass_touches hk hm meterId i
      rcases hp : k.pass meterId i msg with ⟨o,l⟩
      rw [hp] at ht
      have hl : P l := step k l hk ht h
      cases o with
      | error p =>
        rw [passAll_error hp]
        exact hl
      | ok msg' =>
        rw [passAll_ok hp]
        exact ih msg' l (pass_subject hk hm hp) (ht.coherent hk) hl
  rw [← passAll_send]
  exact hall _ msg k hm hk h

theorem Coherent.pass (h : k.Coherent) (meterId : String) (i : Nat) (msg : Message) :
    (k.pass meterId i msg).2.Coherent := by
  cases hm : msg.subject? with
  | some a => exact (pass_touches h hm meterId i).coherent h
  | none =>
    cases msg <;> cases hm
    rw [pass_devnull]
    exact h

theorem Coherent.send (h : k.Coherent) (meterId : String) (msg : Message) :
    (k.send meterId msg).2.Coherent := by
  cases hm : msg.subject? with
  | some a => exact send_induction (fun k l hk ht _ => ht.coherent hk) meterId hm h h
  | none =>
    cases msg <;> cases hm
    exact h

theorem Coherent.enlist (h : k.Coherent) (e : Event) : (k.enlist e).2.Coherent := by
  have ho := h.toOrderly.enlist e
  obtain ⟨hc,-,-,hr⟩ := enlist_keeps e k
  rw [FailingRuntime.describe_answer] at hr
  refine ⟨ho,?_,?_,?_⟩
  · rw [hr]
    exact h.known
  · rw [hc]
    exact h.labelled
  · rw [hr,hc]
    exact h.fed

end Core

end HostMeter
