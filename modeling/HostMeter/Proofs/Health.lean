import HostMeter.Health
import HostMeter.Proofs.Table
set_option autoImplicit false

/-! Liveness and readiness over everything that is reported of the components. Of each component the
last report counts; the overall status is the worst of these, and the meter is ready once started and
as long as that is not unhealthy. -/

namespace HostMeter

namespace Status

variable {s : Status} {ss : List Status}

theorem severity_le_worse (a b : Status) :
    a.severity ≤ (worse a b).severity ∧ b.severity ≤ (worse a b).severity := by
  rw [severity_worse]
  exact ⟨Nat.le_max_left _ _,Nat.le_max_right _ _⟩

theorem worse_eq (a b : Status) : worse a b = a ∨ worse a b = b := by
  unfold worse
  split
  · exact .inr rfl
  · exact .inl rfl

theorem le_foldl_worse (a : Status) (ss : List Status) :
    a.severity ≤ (ss.foldl worse a).severity ∧ ∀ s ∈ ss,s.severity ≤ (ss.foldl worse a).severity := by
  induction ss generalizing a with
  | nil => simp
  | cons b ss ih =>
    obtain ⟨ha,hss⟩ := ih (worse a b)
    obtain ⟨hl,hr⟩ := severity_le_worse a b
    refine ⟨Nat.le_trans hl ha,fun s hs => ?_⟩
    rcases List.mem_cons.mp hs with rfl | hs
    · exact Nat.le_trans hr ha
    · exact hss s hs

theorem foldl_worse_mem (a : Status) (ss : List Status) :
    ss.foldl worse a = a ∨ ss.foldl worse a ∈ ss := by
  induction ss generalizing a with
  | nil => exact .inl rfl
  | cons b ss ih =>
    rw [List.foldl_cons]
    rcases ih (worse a b) with h | h
    · rw [h]
      rcases worse_eq a b with hw | hw
      · exact .inl hw
      · exact .inr (by rw [hw]; exact List.mem_cons_self)
    · exact .inr (List.mem_cons_of_mem _ h)

theorem severity_le_worst (h : s ∈ ss) : s.severity ≤ (worst ss).severity :=
  (le_foldl_worse .healthy ss).2 s h

theorem eq_healthy_of_le (h : s.severity ≤ healthy.severity) : s = .healthy := by
  cases s with
  | healthy => rfl
  | degraded => cases h
  | unhealthy => cases h

theorem worst_mem (h : ss ≠ []) : worst ss ∈ ss := by
  rcases foldl_worse_mem .healthy ss with hw | hw
  · -- nothing is worse than healthy, so that any of them will do
    obtain ⟨s,hs⟩ := List.exists_mem_of_ne_nil ss h
    have hle := severity_le_worst hs
    rw [worst,hw] at hle
    rw [worst,hw,← eq_healthy_of_le hle]
    exact hs
  · exact hw

theorem worst_eq_unhealthy_iff : worst ss = .unhealthy ↔ .unhealthy ∈ ss := by
  constructor
  · intro h
    rcases foldl_worse_mem .healthy ss with hw | hw
    · rw [worst,hw] at h
      cases h
    · rw [← h]
      exact hw
  · intro h
    have hle := severity_le_worst h
    cases hw : worst ss with
    | unhealthy => rfl
    | degraded =>
      rw [hw] at hle
      exact absurd hle (by decide)
    | healthy =>
      rw [hw] at hle
      exact absurd hle (by decide)

end Status

namespace Health

/-- A report of a component, or a turn of the switch that says whether the meter has started. -/
inductive Change
  | register (name : String) (now : Timestamp)
  | update (name : String) (c : ComponentHealth)
  | healthy (name : String) (now : Timestamp)
  | degraded (name message : String) (now : Timestamp)
  | unhealthy (name message : String) (now : Timestamp)
  | switch (on : Bool)
  deriving DecidableEq, Repr

namespace Change

def take : Change → Health → Health
  | .register n now,h => h.register n now
  | .update n c,h => h.update n c
  | .healthy n now,h => h.setHealthy n now
  | .degraded n message now,h => h.setDegraded n message now
  | .unhealthy n message now,h => h.setUnhealthy n message now
  | .switch on,h => { h with started := on }

def report? : Change → Option (String × ComponentHealth)
  | .register n now => some (n,⟨.healthy,none,now⟩)
  | .update n c => some (n,c)
  | .healthy n now => some (n,⟨.healthy,none,now⟩)
  | .degraded n message now => some (n,⟨.degraded,some message,now⟩)
  | .unhealthy n message now => some (n,⟨.unhealthy,some message,now⟩)
  | .switch _ => none

def about? (name : String) (x : Change) : Option ComponentHealth :=
  x.report?.bind fun (n,c) => if n = name then some c else none

def switch? : Change → Option Bool
  | .switch on => some on
  | _ => none

theorem take_eq (x : Change) (h : Health) :
    x.take h =
      match x.report? with
      | some (n,c) => h.update n c
      | none => { h with started := x.switch?.getD h.started } := by
  cases x <;> rfl

theorem component?_take (x : Change) (h : Health) (name : String) :
    (x.take h).component? name = (x.about? name).or (h.component? name) := by
  rw [take_eq,about?]
  rcases x.report? with _ | ⟨n,c⟩
  · rfl
  · by_cases hn : n = name
    · subst hn
      simp [component?,Health.update]
    · have hm : name ≠ n := fun he => hn he.symm
      simp [component?,Health.update,hn,hm]

theorem started_take (x : Change) (h : Health) :
    (x.take h).started = x.switch?.getD h.started := by
  cases x <;> rfl

end Change

def run (xs : List Change) (h : Health) : Health := xs.foldl (fun h x => x.take h) h

def latest (name : String) (xs : List Change) : Option ComponentHealth :=
  (xs.filterMap (·.about? name)).getLast?

/-- How the switch was turned last; it is off to begin with. -/
def switched (xs : List Change) : Bool := ((xs.filterMap Change.switch?).getLast?).getD false

theorem getLast?_filterMap_concat {α β : Type} (f : α → Option β) (xs : List α) (x : α) :
    ((xs++[x]).filterMap f).getLast? = (f x).or (xs.filterMap f).getLast? := by
  rw [List.filterMap_append]
  cases h : f x with
  | none => simp [h]
  | some b => simp [h]

theorem run_concat (xs : List Change) (x : Change) (h : Health) :
    run (xs++[x]) h = x.take (run xs h) := by
  rw [run,List.foldl_append]
  rfl

theorem component?_run (xs : List Change) (name : String) :
    (run xs {}).component? name = latest name xs := by
  induction xs using List.reverseRecOn with
  | nil => rfl
  | append_singleton xs x ih =>
    rw [run_concat,Change.component?_take,ih]
    exact (getLast?_filterMap_concat (·.about? name) xs x).symm

theorem started_run (xs : List Change) : (run xs {}).started = switched xs := by
  induction xs using List.reverseRecOn with
  | nil => rfl
  | append_singleton xs x ih =>
    rw [run_concat,Change.started_take,ih,switched,switched,getLast?_filterMap_concat]
    cases x.switch? <;> rfl

variable {h : Health} {name : String}

theorem mem_statuses_iff {s : Status} :
    s ∈ h.components.values.map (·.status) ↔ ∃ name c,h.component? name = some c ∧ c.status = s := by
  rw [List.mem_map]
  constructor
  · rintro ⟨c,hc,hs⟩
    obtain ⟨name,hn⟩ := Table.mem_values_iff.mp hc
    exact ⟨name,c,hn,hs⟩
  · rintro ⟨name,c,hn,hs⟩
    exact ⟨c,Table.mem_values_iff.mpr ⟨name,hn⟩,hs⟩

theorem mem_unhealthy_iff :
    name ∈ h.unhealthy ↔ ∃ c,h.component? name = some c ∧ c.status = .unhealthy := by
  simp only [unhealthy,Table.keys,Table.filter,List.mem_map,List.mem_filter,decide_eq_true_eq]
  constructor
  · rintro ⟨⟨n,c⟩,⟨hm,hs⟩,rfl⟩
    exact ⟨c,Table.mem_entries_iff.mp hm,hs⟩
  · rintro ⟨c,hc,hs⟩
    exact ⟨(name,c),⟨Table.mem_entries_iff.mpr hc,hs⟩,rfl⟩

theorem unhealthy_increasing (h : Health) : h.unhealthy.Pairwise (· < ·) :=
  List.pairwise_map.mpr (h.components.filter _).ordered

theorem summary_status_le {c : ComponentHealth} (hc : h.component? name = some c) :
    c.status.severity ≤ h.summary.status.severity :=
  Status.severity_le_worst (mem_statuses_iff.mpr ⟨name,c,hc,rfl⟩)

theorem summary_status_cases (h : Health) :
    (∃ name c,h.component? name = some c ∧ c.status = h.summary.status) ∨
      (∀ name,h.component? name = none) ∧ h.summary.status = .healthy := by
  by_cases hs : h.components.values.map (·.status) = []
  · refine .inr ⟨fun name => ?_,by rw [summary,hs]; rfl⟩
    cases hc : h.component? name with
    | none => rfl
    | some c =>
      have hm := mem_statuses_iff.mpr ⟨name,c,hc,rfl⟩
      rw [hs] at hm
      cases hm
  · exact .inl (mem_statuses_iff.mp (Status.worst_mem hs))

theorem unhealthy_eq_nil_iff : h.unhealthy = [] ↔ h.summary.status ≠ .unhealthy := by
  rw [summary,Ne,Status.worst_eq_unhealthy_iff,mem_statuses_iff,List.eq_nil_iff_forall_not_mem]
  simp only [mem_unhealthy_iff,not_exists]

theorem ready_iff :
    h.readiness.ready = true ↔ h.started = true ∧ h.summary.status ≠ .unhealthy := by
  rw [← unhealthy_eq_nil_iff]
  unfold readiness
  cases h.started with
  | false => simp
  | true => cases h.unhealthy <;> simp

theorem reason_of_started (hs : h.started = true) (hr : h.readiness.ready = false) :
    h.readiness.reason = some ("Unhealthy components: "++", ".intercalate h.unhealthy) := by
  unfold readiness at hr ⊢
  rw [hs] at hr ⊢
  cases hu : h.unhealthy with
  | nil =>
    rw [hu] at hr
    cases hr
  | cons n ns => rfl

/-- Whatever has been reported and however the switch has been turned: the overall status is the worst
that was reported last of any component, and healthy when nothing was reported. The meter is ready exactly
when the switch is on and that status is not unhealthy; and when it is not ready although the switch is
on, the reason lists the components last reported unhealthy, each once and in the order of their names. -/
theorem probes_agree (xs : List Change) :
    let h := run xs {}
    (∀ name c,latest name xs = some c → c.status.severity ≤ h.summary.status.severity) ∧
      ((∃ name c,latest name xs = some c ∧ c.status = h.summary.status) ∨
        (∀ name,latest name xs = none) ∧ h.summary.status = .healthy) ∧
      (h.readiness.ready = true ↔ switched xs = true ∧ h.summary.status ≠ .unhealthy) ∧
      (switched xs = true → h.readiness.ready = false →
        ∃ names : List String,
          h.readiness.reason = some ("Unhealthy components: "++", ".intercalate names) ∧
            names.Pairwise (· < ·) ∧
            ∀ name,name ∈ names ↔ ∃ c,latest name xs = some c ∧ c.status = .unhealthy) := by
  intro h
  have hl : ∀ name,latest name xs = h.component? name := fun name => (component?_run xs name).symm
  have hs : switched xs = h.started := (started_run xs).symm
  simp only [hl,hs]
  refine ⟨fun name c hc => summary_status_le hc,summary_status_cases h,ready_iff,?_⟩
  intro hon hr
  exact ⟨h.unhealthy,reason_of_started hon hr,unhealthy_increasing h,fun name => mem_unhealthy_iff⟩

/-- Two components are unhealthy, one of them has recovered, and a third is degraded. -/
example :
    (run [.switch true,.unhealthy reporter "refused" 1,.unhealthy dispatcher "gone" 2,
      .degraded collector "slow" 3,.unhealthy eventWatcher "closed" 4,.healthy dispatcher 5]
      {}).readiness = ⟨false,some "Unhealthy components: event_watcher, reporter"⟩ := by
  decide

end Health

end HostMeter
