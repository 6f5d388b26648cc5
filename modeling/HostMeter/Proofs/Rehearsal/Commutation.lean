import HostMeter.Proofs.Rehearsal.Locality
set_option autoImplicit false

/-! Messages about different containers commute. What a message makes of its own container follows from the
scene and from what is held for that container, and it touches neither the scene nor what is held for others.
So two messages find and leave the same whichever is sent first. -/

namespace HostMeter

theorem StateChange.undated_state (c : StateChange) : c.undated.state = c.state := by
  unfold undated
  split <;> rfl

theorem StateChange.undated_containerName (c : StateChange) :
    c.undated.containerName = c.containerName := by
  unfold undated
  split <;> rfl

theorem Report.undated_containerName (r : Report) : r.undated.containerName = r.containerName := by
  obtain ⟨_,_,_,c | x⟩ := r
  · exact c.undated_containerName
  · rfl

namespace Holding

def started (x : Scene) (info : Container) (h : Holding) : Holding :=
  { h with
    poll := some { phase := if x.CanWait then .polling else .crashed, due := x.now+x.rateMs,
                   channel := some (x.channel info), supplied := true }
    feed := some (x.channel info)
    opened := h.opened+1 }

/-- The loop has been stopped and its channel closed, which may be the one that the runtime fills. -/
def stopped (p : Poll) (h : Holding) : Holding :=
  { h with
    poll := none
    feed := if p.supplied then h.feed.map fun ch => { ch with feed := ch.feed.close } else h.feed }

def told (x : Scene) (r : Report) (h : Holding) : Holding :=
  if x.refusal = none ∧ x.failing = false then { h with reports := h.reports++[r.undated] } else h

end Holding

namespace Core

variable {k l : Rehearsed} {n : String} {info : Container} {c c' : StateChange} {x y : Report}
  {meterId : String}

theorem Coherent.holding_opened (h : k.Coherent) (hc : k.collector.isCollecting n = false)
    (hi : info.name = n) : (k.opened n info).holding n = (k.holding n).started k.scene info := by
  have hd := opened_collector hc hi
  have hfeed : (k.opened n info).feed? n = some k.collector.channels.next := by
    show (Table.insert _ _ _).get? n = _
    rw [Table.get?_insert,if_pos rfl]
  have hold : k.feed? n ≠ some k.collector.channels.next :=
    fun hf => Nat.lt_irrefl _ (h.fed n _ hf).lt
  have hnext : (k.opened n info).collector.channels.get? k.collector.channels.next =
      some (k.scene.channel info) := by
    rw [hd]
    exact provided_next hold
  have hpoll : (k.opened n info).collector.poll? n =
      some (k.collector.freshLoop n k.collector.channels.next) := by
    refine (h.opened hi).sound.poll?_eq_some_iff.mpr ⟨?_,rfl⟩
    rw [hd]
    exact List.mem_append_right _ List.mem_cons_self
  have hcount : (k.opened n info).runtime.inner.openedCount n = k.runtime.inner.openedCount n+1 := by
    show ((Table.insert _ _ _).get? n).getD 0 = _
    rw [Table.get?_insert,if_pos rfl]
    rfl
  unfold holding Holding.started
  rw [hpoll,hfeed,hcount]
  simp only [Option.map_some,Option.bind_some,pollOf,hfeed,Collector.freshLoop,hnext,decide_true]
  rfl

theorem poll?_without {z : PollLoop} (hz : z.name = n) (channels : UsageChannels) (k : Rehearsed) :
    Collector.poll? n { k.collector.without z with channels } = none := by
  apply Collector.poll?_eq_none
  show (k.collector.entries.erase z.name).contains n = false
  simp [hz]

theorem holding_stopped {z : PollLoop} (hz : z.name = n) (k : Rehearsed) :
    holding n { k with collector := { k.collector.without z with
      channels := k.collector.channels.close z.channel } } =
      (k.holding n).stopped (k.pollOf n z) := by
  have hf : (k.feed? n).bind (k.collector.channels.close z.channel).get? =
      if (k.pollOf n z).supplied then
        ((k.feed? n).bind k.collector.channels.get?).map fun ch => { ch with feed := ch.feed.close }
      else (k.feed? n).bind k.collector.channels.get? := by
    cases hi : k.feed? n with
    | none => simp
    | some i =>
      have hs : (k.pollOf n z).supplied = decide (i = z.channel) := by
        simp only [pollOf,hi,Option.some.injEq]
      rw [hs]
      by_cases hx : i = z.channel
      · simp [hx,UsageChannels.close,UsageChannels.get?_modify]
      · simp [hx,Ne.symm hx,UsageChannels.close,UsageChannels.get?_modify]
  unfold holding Holding.stopped
  rw [poll?_without hz]
  exact congrArg (fun feed => Holding.mk _ _ feed _ _) hf

theorem holding_without {z : PollLoop} (hz : z.name = n) (k : Rehearsed) :
    holding n { k with collector := k.collector.without z } = { k.holding n with poll := none } := by
  have hp : (k.collector.without z).poll? n = none := poll?_without hz k.collector.channels k
  unfold holding
  rw [hp]
  rfl

theorem holding_deliver (hx : x.containerName = n) :
    (k.deliver x).2.holding n = (k.holding n).told k.scene x := by
  have hr : (k.deliver x).2.reportsOn n =
      if k.scene.refusal = none ∧ k.scene.failing = false then k.reportsOn n++[x]
      else k.reportsOn n := by
    unfold reportsOn
    rw [deliver_backend]
    split
    · simp [List.filter_append,hx]
    · rfl
  unfold holding Holding.told
  rw [hr]
  split
  · rw [List.map_append]
    rfl
  · rfl

/-- The same is held for the container, and the scene is the same. -/
structure Agree (n : String) (k l : Rehearsed) : Prop where
  scene : l.scene = k.scene
  holding : l.holding n = k.holding n

def AgreeAfter {α : Type} (n : String) (p q : α × Rehearsed) : Prop := q.1 = p.1 ∧ Agree n p.2 q.2

namespace Agree

theorem isCollecting (h : Agree n k l) (hk : k.collector.Sound) (hl : l.collector.Sound) :
    l.collector.isCollecting n = k.collector.isCollecting n := by
  have hp : ((l.collector.poll? n).map (l.pollOf n)).isSome =
      ((k.collector.poll? n).map (k.pollOf n)).isSome := congrArg (fun d => d.poll.isSome) h.holding
  rwa [Option.isSome_map,Option.isSome_map,hk.isSome_poll?,hl.isSome_poll?] at hp

theorem registered (h : Agree n k l) : l.registry.get? n = k.registry.get? n :=
  congrArg Holding.registered h.holding

theorem isRegistered (h : Agree n k l) : l.registry.isRegistered n = k.registry.isRegistered n :=
  congrArg Option.isSome h.registered

theorem answer (h : Agree n k l) (fault : Option CallFault) (m : String) :
    l.runtime.answer fault m = k.runtime.answer fault m := by
  have hc : l.runtime.inner.containers = k.runtime.inner.containers :=
    congrArg Scene.containers h.scene
  unfold FailingRuntime.answer Fleet.describe?
  rw [hc]

theorem withRegistry (h : Agree n k l) {q r : Registry} (hp : q.policy = r.policy)
    (hg : q.get? n = r.get? n) : Agree n { k with registry := r } { l with registry := q } where
  scene := by
    calc
      Core.scene { l with registry := q } = { l.scene with policy := q.policy } := rfl
      _ = { k.scene with policy := r.policy } := by rw [h.scene,hp]
  holding := by
    calc
      Core.holding n { l with registry := q } = { l.holding n with registered := q.get? n } := rfl
      _ = { k.holding n with registered := r.get? n } := by rw [h.holding,hg]

end Agree

theorem deliver_fst (x : Report) (k : Rehearsed) :
    (k.deliver x).1 =
      match k.scene.refusal,k.scene.failing with
      | some e,_ => .failed ⟨"reporter",.reporting e⟩
      | none,true => .failed ⟨"reporter",.reporting (.unavailable Inbox.failure)⟩
      | none,false => .stopped := by
  obtain ⟨_,_,_,⟨⟨_,failing⟩,refusal⟩,_⟩ := k
  cases refusal with
  | some e => rfl
  | none => cases failing <;> rfl

theorem deliver_agree (h : Agree n k l) (hx : x.containerName = n) (hy : y.undated = x.undated) :
    AgreeAfter n (k.deliver x) (l.deliver y) := by
  have hyn : y.containerName = n := by
    rw [← y.undated_containerName,hy,x.undated_containerName,hx]
  refine ⟨?_,?_,?_⟩
  · rw [deliver_fst,deliver_fst,h.scene]
  · rw [deliver_scene,deliver_scene,h.scene]
  · rw [holding_deliver hx,holding_deliver hyn,h.scene,h.holding,Holding.told,Holding.told,hy]

theorem start_agree (hk : k.Coherent) (hl : l.Coherent) (h : Agree n k l) :
    AgreeAfter n (k.start n) (l.start n) := by
  have hc := h.isCollecting hk.sound hl.sound
  cases hkc : k.collector.isCollecting n with
  | true =>
    rw [start_collecting hkc,start_collecting (hc.trans hkc)]
    exact ⟨rfl,h⟩
  | false =>
    have hf : l.runtime.faults.openUsage = k.runtime.faults.openUsage :=
      congrArg (fun d => d.faults.openUsage) h.scene
    rw [start_eq hkc,start_eq (hc.trans hkc),h.answer,hf]
    cases ha : k.runtime.answer k.runtime.faults.openUsage n with
    | failed e => exact ⟨rfl,h⟩
    | crashed => exact ⟨rfl,h⟩
    | done info =>
      have hi := FailingRuntime.answer_name hk.known ha
      refine ⟨rfl,?_,?_⟩
      · rw [opened_scene hkc hi,opened_scene (hc.trans hkc) hi,h.scene]
      · rw [hk.holding_opened hkc hi,hl.holding_opened (hc.trans hkc) hi,h.scene,h.holding]

theorem halt_agree (hk : k.Coherent) (hl : l.Coherent) (h : Agree n k l) :
    AgreeAfter n (k.halt n) (l.halt n) := by
  have hp : (l.collector.poll? n).map (l.pollOf n) = (k.collector.poll? n).map (k.pollOf n) :=
    congrArg Holding.poll h.holding
  cases hkp : k.collector.poll? n with
  | none =>
    have hkc := hk.sound.isCollecting_of_poll?_eq_none hkp
    rw [halt_idle hkc,halt_idle ((h.isCollecting hk.sound hl.sound).trans hkc)]
    exact ⟨rfl,h⟩
  | some z =>
    rw [hkp] at hp
    obtain ⟨w,hlp,hw⟩ := Option.map_eq_some_iff.mp hp
    obtain ⟨hz,hzn⟩ := hk.sound.poll?_eq_some_iff.mp hkp
    obtain ⟨hwm,hwn⟩ := hl.sound.poll?_eq_some_iff.mp hlp
    have hph : w.phase = z.phase := congrArg Poll.phase hw
    rcases hk.sound.atRest z hz with hp | hp
    · rw [halt_polling hk.sound hz hzn hp,halt_polling hl.sound hwm hwn (hph.trans hp)]
      refine ⟨rfl,h.scene,?_⟩
      rw [holding_stopped hzn,holding_stopped hwn,h.holding,hw]
    · rw [halt_crashed hk.sound hz hzn hp,halt_crashed hl.sound hwm hwn (hph.trans hp)]
      refine ⟨rfl,h.scene,?_⟩
      rw [holding_without hzn,holding_without hwn,h.holding]

theorem sample_congr (hs : c'.state = c.state) (hn : c'.containerName = c.containerName) (k : Rehearsed) :
    k.sample c' = k.sample c := by
  unfold sample
  rw [hs,hn]

theorem sample_agree (hk : k.Coherent) (hl : l.Coherent) (h : Agree c.containerName k l) :
    AgreeAfter c.containerName (k.sample c) (l.sample c) := by
  unfold sample
  cases c.state with
  | running => exact start_agree hk hl h
  | stopped => exact halt_agree hk hl h
  | unknown => exact ⟨rfl,h⟩

theorem follow_agree (hk : k.Coherent) (hl : l.Coherent) (hn : c.containerName = n) (h : Agree n k l)
    (hc : c'.undated = c.undated) : AgreeAfter n (k.follow meterId c) (l.follow meterId c') := by
  subst hn
  have hs : c'.state = c.state := by
    rw [← c'.undated_state,hc,c.undated_state]
  have hcn : c'.containerName = c.containerName := by
    rw [← c'.undated_containerName,hc,c.undated_containerName]
  have ha := sample_agree hk hl h
  rw [← sample_congr hs hcn l] at ha
  rcases hks : k.sample c with ⟨o,k'⟩
  rcases hls : l.sample c' with ⟨o',l'⟩
  rw [hks,hls] at ha
  obtain ⟨ho,ha⟩ := ha
  have ho : o' = o := ho
  subst ho
  cases o' with
  | error p =>
    rw [follow_error hks,follow_error hls]
    exact ⟨rfl,ha⟩
  | ok u =>
    rw [follow_ok hks,follow_ok hls]
    refine deliver_agree ha rfl ?_
    simp only [Report.undated,Report.ofChange,ReportData.undated,hc]

theorem register_agree (h : Agree info.name k l) :
    (l.registry.register info).1 = (k.registry.register info).1 ∧
      Agree info.name { k with registry := (k.registry.register info).2 }
        { l with registry := (l.registry.register info).2 } := by
  have hp : l.registry.policy = k.registry.policy := congrArg Scene.policy h.scene
  have ht : l.registry.isTrackable info = k.registry.isTrackable info :=
    congrArg (fun p => p.isTrackable info) hp
  have hr : (l.registry.register info).1 = (k.registry.register info).1 := by
    unfold Registry.register
    rw [ht,h.isRegistered]
    split
    · rfl
    · split <;> rfl
  refine ⟨hr,h.withRegistry ?_ ?_⟩
  · rw [Registry.register_policy,Registry.register_policy,hp]
  · rw [Registry.get?_register,Registry.get?_register,hr,h.registered]

theorem discover_agree (hk : k.Coherent) (hl : l.Coherent) (h : Agree info.name k l) :
    AgreeAfter info.name (k.discover meterId info) (l.discover meterId info) := by
  obtain ⟨hr,ha⟩ := register_agree h
  by_cases hadd : (k.registry.register info).1 = .added
  · rw [discover_added hadd,discover_added (hr.trans hadd)]
    -- The two changes are dated by different clocks, and are the same otherwise.
    exact follow_agree (hk.registry (hk.keyed.register info)) (hl.registry (hl.keyed.register info)) rfl ha rfl
  · rw [discover_refused hadd,discover_refused fun hl => hadd (hr.symm.trans hl)]
    exact ⟨rfl,h⟩

theorem change_agree (hk : k.Coherent) (hl : l.Coherent) (h : Agree c.containerName k l) :
    AgreeAfter c.containerName (k.change meterId c) (l.change meterId c) := by
  cases hn : k.registry.isRegistered c.containerName with
  | false =>
    rw [change_untracked hn,change_untracked (h.isRegistered.trans hn)]
    exact ⟨rfl,h⟩
  | true =>
    have hln := h.isRegistered.trans hn
    cases hs : c.state with
    | running =>
      have hf : l.runtime.faults.describe = k.runtime.faults.describe :=
        congrArg (fun d => d.faults.describe) h.scene
      rw [change_running hn hs,change_running hln hs,look_eq c l,h.answer,hf]
      rcases hlk : k.look c with ⟨o,k'⟩
      have hke := (look_eq c k).symm.trans hlk
      obtain ⟨ho,rfl⟩ := Prod.mk.inj hke
      rw [ho]
      cases o with
      | error p => exact ⟨rfl,h⟩
      | ok c' =>
        have hc' : c'.containerName = c.containerName := (Looked.of_eq hlk).containerName hk.known
        exact follow_agree hk hl hc' h rfl
    | stopped =>
      have hres : c.resolvedIn l.registry = c.resolvedIn k.registry := by
        unfold StateChange.resolvedIn
        rw [h.registered]
      rw [change_stopped hn hs,change_stopped hln hs,hres]
      refine follow_agree (hk.registry (hk.keyed.drop _)) (hl.registry (hl.keyed.drop _))
        (StateChange.resolvedIn_containerName hk.keyed c) (h.withRegistry ?_ ?_) rfl
      · exact congrArg Scene.policy h.scene
      · rw [Registry.get?_drop,Registry.get?_drop,if_pos rfl,if_pos rfl]
    | unknown =>
      rw [change_unknown hn hs,change_unknown hln hs]
      exact follow_agree hk hl rfl h rfl

theorem send_agree {msg : Message} (hm : msg.subject? = some n) (hk : k.Coherent) (hl : l.Coherent)
    (h : Agree n k l) : AgreeAfter n (k.send meterId msg) (l.send meterId msg) := by
  cases msg with
  | discovery info =>
    cases hm
    exact discover_agree hk hl h
  | change c =>
    cases hm
    exact change_agree hk hl h
  | sample x =>
    cases hm
    exact deliver_agree h rfl rfl
  | report r =>
    cases hm
    exact deliver_agree h rfl rfl
  | devnull => cases hm

def sendAt (meterId : String) (t : Timestamp) (msg : Message) (k : Rehearsed) : Passage × Rehearsed :=
  send meterId msg { k with clock := t }

variable {a b : String} {msg first second : Message}

theorem Coherent.clock (h : k.Coherent) (t : Timestamp) : Coherent { k with clock := t } :=
  ⟨⟨h.keyed,h.sound⟩,h.known,h.labelled,h.fed⟩

theorem Coherent.sendAt (h : k.Coherent) (meterId : String) (t : Timestamp) (msg : Message) :
    (k.sendAt meterId t msg).2.Coherent := (h.clock t).send meterId msg

theorem sendAt_untouched (h : k.Coherent) (hm : msg.subject? = some a) (hn : n ≠ a) (meterId : String)
    (t : Timestamp) : Untouched n k (k.sendAt meterId t msg).2 := by
  have hc : Untouched n k { k with clock := t } := ⟨rfl,rfl,rfl,fun _ _ h _ => h,rfl,rfl,rfl⟩
  exact hc.trans (send_untouched (h.clock t) hm hn meterId)

theorem sendAt_scene (h : k.Coherent) (hm : msg.subject? = some a) (meterId : String)
    (t : Timestamp) : (k.sendAt meterId t msg).2.scene = k.scene :=
  send_scene (h.clock t) hm meterId

/-- What the clock shows makes no difference but to dates. -/
theorem sendAt_agree (hm : msg.subject? = some n) (hk : k.Coherent) (hl : l.Coherent) (h : Agree n k l)
    (meterId : String) (t u : Timestamp) :
    AgreeAfter n (k.sendAt meterId t msg) (l.sendAt meterId u msg) :=
  send_agree hm (hk.clock t) (hl.clock u) ⟨h.scene,h.holding⟩

/-- The same, up to the numbers of channels and loops and what has been read off the clock. -/
structure Alike (k l : Rehearsed) : Prop where
  registry : l.registry = k.registry
  collecting : ∀ n,l.collector.isCollecting n = k.collector.isCollecting n
  fed : ∀ n,(l.feed? n).isSome = (k.feed? n).isSome
  scene : l.scene = k.scene
  holding : ∀ n,l.holding n = k.holding n

theorem Coherent.isSome_feed? (h : k.Coherent) (n : String) :
    (k.feed? n).isSome = (k.holding n).feed.isSome := by
  unfold holding
  cases hi : k.feed? n with
  | none => rfl
  | some i =>
    obtain ⟨ch,hc,-⟩ := Option.map_eq_some_iff.mp (h.fed n i hi)
    rw [Option.bind_some,hc]
    rfl

theorem alike_of_agree (hk : k.Coherent) (hl : l.Coherent) (h : ∀ n,Agree n k l) : Alike k l where
  registry := by
    have hc : l.registry.containers = k.registry.containers := Table.ext fun n => (h n).registered
    have hp : l.registry.policy = k.registry.policy := congrArg Scene.policy (h "").scene
    calc
      l.registry = ⟨l.registry.policy,l.registry.containers⟩ := rfl
      _ = k.registry := by rw [hp,hc]
  collecting := fun n => (h n).isCollecting hk.sound hl.sound
  fed := fun n => by rw [hk.isSome_feed?,hl.isSome_feed?,(h n).holding]
  scene := (h "").scene
  holding := fun n => (h n).holding

/-- A message finds the same behind one about another container as before it. -/
theorem agree_behind (h : k.Coherent) (hm : msg.subject? = some a) (hn : n ≠ a) (meterId : String)
    (t : Timestamp) : Agree n k (k.sendAt meterId t msg).2 :=
  ⟨sendAt_scene h hm meterId t,(sendAt_untouched h hm hn meterId t).holding h⟩

theorem sends_alike (h : k.Coherent) (ha : first.subject? = some a) (hb : second.subject? = some b)
    (hab : a ≠ b) (meterId : String) (t t' u u' : Timestamp) :
    let one := k.sendAt meterId t first
    let other := k.sendAt meterId u second
    let both := one.2.sendAt meterId t' second
    let swapped := other.2.sendAt meterId u' first
    Alike both.2 swapped.2 ∧ swapped.1 = one.1 ∧ both.1 = other.1 := by
  intro one other both swapped
  have hone := h.sendAt meterId t first
  have hother := h.sendAt meterId u second
  -- Each message does behind the other what it does at once.
  have hfirst : AgreeAfter a one swapped :=
    sendAt_agree ha h hother (agree_behind h hb hab meterId u) meterId t u'
  have hsecond : AgreeAfter b other both :=
    sendAt_agree hb h hone (agree_behind h ha hab.symm meterId t) meterId u t'
  have hscene : swapped.2.scene = both.2.scene :=
    calc
      swapped.2.scene = other.2.scene := sendAt_scene hother ha meterId u'
      _ = both.2.scene := hsecond.2.scene.symm
  refine ⟨alike_of_agree (hone.sendAt meterId t' second) (hother.sendAt meterId u' first) ?_,
    hfirst.1,hsecond.1⟩
  intro n
  refine ⟨hscene,?_⟩
  by_cases hna : n = a
  · subst hna
    calc
      swapped.2.holding n = one.2.holding n := hfirst.2.holding
      _ = both.2.holding n := (agree_behind hone hb hab meterId t').holding.symm
  have hswapped : swapped.2.holding n = other.2.holding n := (agree_behind hother ha hna meterId u').holding
  by_cases hnb : n = b
  · subst hnb
    exact hswapped.trans hsecond.2.holding.symm
  · calc
      swapped.2.holding n = other.2.holding n := hswapped
      _ = k.holding n := (agree_behind h hb hnb meterId u).holding
      _ = one.2.holding n := (agree_behind h ha hna meterId t).holding.symm
      _ = both.2.holding n := (agree_behind hone hb hnb meterId t').holding.symm

end Core

namespace Rehearsal

/-- Sends a message through the standard chain while the clock shows that. -/
def sendAt (s : ChainSettings) (t : Timestamp) (msg : Message) (m : Rehearsal) : Passage × Rehearsal :=
  Meter.send s msg { m with clock := t }

theorem outcome_sendAt (s : ChainSettings) (t : Timestamp) (msg : Message) (m : Rehearsal) :
    Meter.outcome (m.sendAt s t msg) = m.core.sendAt s.meterId t msg :=
  Meter.outcome_send s msg { m with clock := t }

/-- Messages about two containers may be sent in either order, from whatever a rehearsal has come to and
whatever the clock shows meanwhile. The two ends are alike but for the numbers of channels and loops and for
dates, each send comes out the same, and the first leaves all about the other container as it was. -/
theorem sends_commute (p : Policy) (containers : List Container) (rateMs places : Nat) (clock : Timestamp)
    (moves : List Move) (s : ChainSettings) {first second : Message} {a b : String}
    (ha : first.subject? = some a) (hb : second.subject? = some b) (hab : a ≠ b)
    (t t' u u' : Timestamp) :
    let m := run moves (ofParts p containers rateMs places clock)
    let one := m.sendAt s t first
    let other := m.sendAt s u second
    let both := one.2.sendAt s t' second
    let swapped := other.2.sendAt s u' first
    both.2.core.Alike swapped.2.core ∧ (swapped.1 = one.1 ∧ both.1 = other.1) ∧
      m.core.Untouched b one.2.core := by
  intro m one other both swapped
  have hm : m.core.Coherent := run_coherent (ofParts_coherent p containers rateMs places clock) moves
  have hone : Meter.outcome one = m.core.sendAt s.meterId t first := outcome_sendAt s t first m
  have hother : Meter.outcome other = m.core.sendAt s.meterId u second := outcome_sendAt s u second m
  have hboth : Meter.outcome both = (Meter.outcome one).2.sendAt s.meterId t' second :=
    outcome_sendAt s t' second one.2
  have hswapped : Meter.outcome swapped = (Meter.outcome other).2.sendAt s.meterId u' first :=
    outcome_sendAt s u' first other.2
  obtain ⟨halike,hfirst,hsecond⟩ := Core.sends_alike hm ha hb hab s.meterId t t' u u'
  have hrest := Core.sendAt_untouched hm ha hab.symm s.meterId t
  rw [← hone,← hother,← hboth,← hswapped] at halike
  rw [← hone,← hother,← hswapped] at hfirst
  rw [← hone,← hother,← hboth] at hsecond
  rw [← hone] at hrest
  exact ⟨halike,⟨hfirst,hsecond⟩,hrest⟩

def trackable (name : String) : Container := Container.withLabel { name } "track" "yes"

def settings : ChainSettings := { meterId := "meter", serviceKey := "service" }

def beginning : List Move :=
  [.add (trackable "web"),.send settings (.discovery (trackable "web")),.add (trackable "db"),
   .add (trackable "cache")]

def discovered (one other : String) : Rehearsal :=
  (((run beginning (ofParts (.ofParts "track" "") [] 100 8 0)).sendAt settings 5
    (.discovery (trackable one))).2.sendAt settings 6 (.discovery (trackable other))).2

/-- Whichever is discovered first gets the first free channel, which makes no other difference. -/
theorem sends_commute_numbered :
    (discovered "db" "cache").core.feed? "db" = some 1 ∧
      (discovered "cache" "db").core.feed? "db" = some 2 ∧
      (discovered "cache" "db").core.holding "db" = (discovered "db" "cache").core.holding "db" ∧
      (discovered "cache" "db").registry = (discovered "db" "cache").registry := by
  have hdb : (Message.discovery (trackable "db")).subject? = some "db" := rfl
  have hcache : (Message.discovery (trackable "cache")).subject? = some "cache" := rfl
  obtain ⟨h,-,-⟩ := sends_commute (.ofParts "track" "") [] 100 8 0 beginning settings hdb hcache
    (by decide) 5 6 5 6
  exact ⟨by decide,by decide,h.holding "db",h.registry⟩

end Rehearsal

end HostMeter
