import HostMeter.Proofs.Rehearsal.Moves
set_option autoImplicit false

/-! What a rehearsed meter holds for one container, and the scene that is the same for all of them. A message
about a container touches nothing that is held for another one, and does not change the scene. -/

namespace HostMeter

/-- The transition without its instant, when it is one that the meter dates by its own clock. -/
def StateChange.undated (c : StateChange) : StateChange :=
  if c.source.type = .existed then { c with source := { c.source with timestamp := 0 } } else c

def ReportData.undated : ReportData → ReportData
  | .change c => .change c.undated
  | .sample x => .sample x

def Report.undated (r : Report) : Report := { r with timestamp := 0, data := r.data.undated }

/-- What does not belong to any one container, or can only be changed from outside. -/
structure Scene where
  policy : Policy
  rateMs : Nat
  now : Nat
  stream : Channel Sample
  containers : Table Container
  watchers : List Watcher
  labelKeys : Option (List String)
  deaf : List WatchId
  faults : Faults
  refusal : Option DeliveryError
  failing : Bool
  deriving DecidableEq, Repr

def Scene.CanWait (x : Scene) : Prop := x.now+x.rateMs < Collector.lastInstant

instance (x : Scene) : Decidable x.CanWait :=
  inferInstanceAs (Decidable (x.now+x.rateMs < Collector.lastInstant))

def Scene.channel (info : Container) (x : Scene) : UsageChannel :=
  ⟨info,if x.CanWait then .ofPlaces Fleet.usagePlaces else (Channel.ofPlaces Fleet.usagePlaces).close⟩

/-- A poll loop without its generation and without the number of its channel. -/
structure Poll where
  phase : Phase
  due : Nat
  channel : Option UsageChannel
  supplied : Bool
  deriving DecidableEq, Repr

/-- What is held for one container. -/
structure Holding where
  registered : Option Container
  poll : Option Poll
  feed : Option UsageChannel
  opened : Nat
  reports : List Report
  deriving DecidableEq, Repr

namespace Core

def scene (k : Rehearsed) : Scene where
  policy := k.registry.policy
  rateMs := k.collector.rateMs
  now := k.collector.now
  stream := k.collector.stream
  containers := k.runtime.inner.containers
  watchers := k.runtime.inner.watchers
  labelKeys := k.runtime.inner.labelKeys
  deaf := k.runtime.deaf
  faults := k.runtime.faults
  refusal := k.backend.fault
  failing := k.backend.inner.failing

/-- The number of the channel that the runtime fills for a container. -/
def feed? (n : String) (k : Rehearsed) : Option ChannelId := k.runtime.inner.feeds.get? n

def reportsOn (n : String) (k : Rehearsed) : List Report :=
  k.backend.inner.reports.filter (·.containerName = n)

def pollOf (n : String) (k : Rehearsed) (x : PollLoop) : Poll where
  phase := x.phase
  due := x.due
  channel := k.collector.channels.get? x.channel
  supplied := k.feed? n = some x.channel

def holding (n : String) (k : Rehearsed) : Holding where
  registered := k.registry.get? n
  poll := (k.collector.poll? n).map (k.pollOf n)
  feed := (k.feed? n).bind k.collector.channels.get?
  opened := k.runtime.inner.openedCount n
  reports := (k.reportsOn n).map Report.undated

/-- Everything about a container is the same, with its loop, its channels and their numbers. -/
structure Untouched (n : String) (k l : Rehearsed) : Prop where
  registered : l.registry.get? n = k.registry.get? n
  entry : l.collector.entries.get? n = k.collector.entries.get? n
  poll : l.collector.poll? n = k.collector.poll? n
  channels : ∀ i ch,k.collector.channels.get? i = some ch → ch.container.name = n →
    l.collector.channels.get? i = some ch
  feed : l.feed? n = k.feed? n
  opened : l.runtime.inner.openedCount n = k.runtime.inner.openedCount n
  reports : l.reportsOn n = k.reportsOn n

variable {k l j : Rehearsed} {n a : String} {i : ChannelId} {info : Container}

theorem Untouched.refl (n : String) (k : Rehearsed) : Untouched n k k :=
  ⟨rfl,rfl,rfl,fun _ _ h _ => h,rfl,rfl,rfl⟩

theorem Untouched.trans (h : Untouched n k l) (g : Untouched n l j) : Untouched n k j where
  registered := g.registered.trans h.registered
  entry := g.entry.trans h.entry
  poll := g.poll.trans h.poll
  channels := fun i ch hi hn => g.channels i ch (h.channels i ch hi hn) hn
  feed := g.feed.trans h.feed
  opened := g.opened.trans h.opened
  reports := g.reports.trans h.reports

theorem Untouched.get? (h : Untouched n k l) (hi : k.collector.channels.Carries i n) :
    l.collector.channels.get? i = k.collector.channels.get? i := by
  obtain ⟨ch,hc,hn⟩ := Option.map_eq_some_iff.mp hi
  rw [h.channels i ch hc hn,hc]

theorem Untouched.holding (h : Untouched n k l) (hk : k.Coherent) : l.holding n = k.holding n := by
  have hp : (l.collector.poll? n).map (l.pollOf n) = (k.collector.poll? n).map (k.pollOf n) := by
    rw [h.poll]
    apply Option.map_congr
    intro x hx
    rw [pollOf,pollOf,h.feed,h.get? (hk.labelled.poll? hk.sound hx)]
  have hf : (l.feed? n).bind l.collector.channels.get? = (k.feed? n).bind k.collector.channels.get? := by
    rw [h.feed]
    cases hi : k.feed? n with
    | none => rfl
    | some i => exact h.get? (hk.fed n i hi)
  simp only [Core.holding,h.registered,hp,hf,h.opened,h.reports]

theorem acquire_get? {c : Collector} {o : Opening} (h : o.abandoned ≠ some i) :
    (c.acquire o).channels.get? i = (c.channels.add ⟨o.container,.ofPlaces o.places⟩).get? i := by
  unfold Collector.acquire
  cases ho : o.abandoned with
  | none => rfl
  | some j =>
    rw [ho] at h
    show (UsageChannels.cut _ j).get? i = _
    rw [UsageChannels.cut,UsageChannels.get?_modify,if_neg fun hj => h (congrArg some hj)]

theorem provided_get? (h : k.feed? n ≠ some i) (hi : i < k.collector.channels.next) :
    (k.provided n info).get? i = k.collector.channels.get? i := by
  have ha : (k.collector.acquire (k.runtime.opening n info)).channels.get? i =
      k.collector.channels.get? i := (acquire_get? h).trans (UsageChannels.get?_add_of_lt hi _)
  unfold provided
  split
  · exact ha
  · rw [UsageChannels.close,UsageChannels.get?_modify,if_neg (Nat.ne_of_gt hi),ha]

theorem provided_next (h : k.feed? n ≠ some k.collector.channels.next) :
    (k.provided n info).get? k.collector.channels.next = some (k.scene.channel info) := by
  have ha : (k.collector.acquire (k.runtime.opening n info)).channels.get? k.collector.channels.next =
      some ⟨info,.ofPlaces Fleet.usagePlaces⟩ :=
    (acquire_get? h).trans (UsageChannels.get?_add_next _ _)
  have hw : k.scene.CanWait ↔ k.collector.CanWait := Iff.rfl
  unfold provided Scene.channel
  by_cases h : k.collector.CanWait
  · rw [if_pos h,if_pos (hw.mpr h),ha]
  · rw [if_neg h,if_neg (fun hc => h (hw.mp hc)),UsageChannels.close,UsageChannels.get?_modify,if_pos rfl,ha]
    rfl

theorem opened_scene (h : k.collector.isCollecting n = false) (hi : info.name = n) :
    (k.opened n info).scene = k.scene := by
  unfold scene
  rw [opened_collector h hi]
  rfl

theorem deliver_backend (x : Report) (k : Rehearsed) :
    (k.deliver x).2.backend =
      if k.scene.refusal = none ∧ k.scene.failing = false then
        { k.backend with inner := { k.backend.inner with reports := k.backend.inner.reports++[x] } }
      else k.backend := by
  obtain ⟨_,_,_,⟨⟨rs,failing⟩,refusal⟩,_⟩ := k
  cases refusal with
  | some e => rfl
  | none => cases failing <;> rfl

theorem deliver_scene (x : Report) (k : Rehearsed) : (k.deliver x).2.scene = k.scene := by
  unfold scene
  rw [deliver_backend]
  split <;> rfl

theorem Touches.scene (h : Touches a k l) : l.scene = k.scene := by
  cases h with
  | nothing => rfl
  | registry r _ policy => simp only [Core.scene,policy]
  | opened info name fresh => exact opened_scene fresh name
  | halted => rfl
  | delivered x => exact deliver_scene x k

theorem opened_untouched (hk : k.Coherent) (hi : info.name = a)
    (hc : k.collector.isCollecting a = false) (hn : n ≠ a) : Untouched n k (k.opened a info) := by
  have hl : (k.opened a info).collector.Sound := (hk.opened hi).sound
  have hd := opened_collector hc hi
  refine ⟨rfl,?_,?_,?_,?_,?_,rfl⟩
  · rw [hd,Table.get?_insert,if_neg hn]
  · refine hk.sound.poll?_congr hl fun x hx => ?_
    rw [hd,List.mem_append,List.mem_singleton]
    refine ⟨fun hm => hm.resolve_right ?_,.inl⟩
    rintro rfl
    exact hn hx.symm
  · intro i ch hch hname
    have hcarries : k.collector.channels.Carries i n := Option.map_eq_some_iff.mpr ⟨ch,hch,hname⟩
    have hfeed : k.feed? a ≠ some i := fun hf => hn (hcarries.unique (hk.fed a i hf))
    rw [hd]
    exact (provided_get? hfeed hcarries.lt).trans hch
  · exact (Table.get?_insert ..).trans (if_neg hn)
  · show ((Table.insert _ _ _).get? n).getD 0 = _
    rw [Table.get?_insert,if_neg hn]
    rfl

theorem halted_untouched {x : PollLoop} {channels : UsageChannels} (hk : k.Coherent)
    (hx : x ∈ k.collector.loops) (ha : x.name = a)
    (hc : channels = k.collector.channels ∨ channels = k.collector.channels.close x.channel)
    (hn : n ≠ a) :
    Untouched n k { k with collector := { k.collector.without x with channels } } := by
  have hl : Collector.Sound { k.collector.without x with channels } :=
    (hk.sound.without hx).congr rfl rfl rfl
  refine ⟨rfl,?_,?_,?_,rfl,rfl,rfl⟩
  · show (k.collector.entries.erase x.name).get? n = _
    rw [Table.get?_erase,ha,if_neg hn]
  · refine hk.sound.poll?_congr hl fun y hy => ⟨List.mem_of_mem_filter,fun hm => ?_⟩
    refine List.mem_filter.mpr ⟨hm,?_⟩
    have hg : y.generation ≠ x.generation := by
      intro hg
      rw [hk.sound.eq_of_generation hm hx hg] at hy
      exact hn (hy.symm.trans ha)
    simpa using hg
  · intro i ch hch hname
    rcases hc with rfl | rfl
    · exact hch
    · have hcarries : k.collector.channels.Carries i n := Option.map_eq_some_iff.mpr ⟨ch,hch,hname⟩
      have hi : x.channel ≠ i := by
        rintro rfl
        exact hn (hcarries.unique (ha ▸ hk.labelled x hx))
      show (UsageChannels.close _ _).get? i = _
      rw [UsageChannels.close,UsageChannels.get?_modify,if_neg hi,hch]

theorem deliver_untouched {x : Report} (ha : x.containerName = a) (hn : n ≠ a) (k : Rehearsed) :
    Untouched n k (k.deliver x).2 := by
  refine ⟨rfl,rfl,rfl,fun _ _ h _ => h,rfl,rfl,?_⟩
  have hx : x.containerName ≠ n := ha ▸ hn.symm
  unfold reportsOn
  rw [deliver_backend]
  split
  · simp [List.filter_append,hx]
  · rfl

theorem Touches.untouched (h : Touches a k l) (hk : k.Coherent) (hn : n ≠ a) : Untouched n k l := by
  cases h with
  | nothing => exact .refl n k
  | registry r _ _ others => exact ⟨others n hn,rfl,rfl,fun _ _ h _ => h,rfl,rfl,rfl⟩
  | opened info name fresh => exact opened_untouched hk name fresh hn
  | halted x mem name channels closed => exact halted_untouched hk mem name closed hn
  | delivered x about => exact deliver_untouched about hn k

variable {msg : Message} {meterId : String}

theorem send_untouched (hk : k.Coherent) (hm : msg.subject? = some a) (hn : n ≠ a) (meterId : String) :
    Untouched n k (k.send meterId msg).2 :=
  send_induction (P := Untouched n k) (fun _ _ hc ht h => h.trans (ht.untouched hc hn)) meterId hm hk
    (.refl n k)

theorem send_scene (hk : k.Coherent) (hm : msg.subject? = some a) (meterId : String) :
    (k.send meterId msg).2.scene = k.scene :=
  send_induction (P := fun l => l.scene = k.scene)
    (fun _ _ _ ht h => ht.scene.trans h) meterId hm hk rfl

end Core

end HostMeter
