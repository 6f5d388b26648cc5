import HostMeter.Proofs.Documents.Finite
import HostMeter.Proofs.Documents.RoundTrip
set_option autoImplicit false

/-! Whatever spelling a reader has accepted, what is written of the value is read as the value again: one
pass through the reader brings a document into the form in which it stays. -/

namespace HostMeter

section

variable {ε α β : Type} {x : Except ε α} {b : β}

theorem bind_eq_ok {f : α → Except ε β} : x.bind f = .ok b ↔ ∃ a,x = .ok a ∧ f a = .ok b := by
  cases x <;> simp [Except.bind]

theorem map_eq_ok {f : α → β} : x.map f = .ok b ↔ ∃ a,x = .ok a ∧ f a = b := by
  cases x <;> simp [Except.map]

end

theorem mismatch_ne_ok {α : Type} {expected : String} {d : Doc} {a : α} :
    mismatch expected d ≠ .ok a := by
  unfold mismatch
  split <;> simp

theorem stopped_eq_ok {α : Type} {stop : Option Fault} {a b : α} (h : stopped stop a = .ok b) :
    a = b := by
  cases stop with
  | none => exact Except.ok.inj h
  | some f => cases h

/-- Whatever the reader makes of a document with finite numbers is good. -/
structure Codec.Yields {α : Type} (P : α → Prop) (c : Codec α) : Prop where
  good : ∀ {o : Origin} {d : Doc} {a : α},d.Numeric Binary64.Finite → c.read o d = .ok a → P a

namespace Codec

variable {α β : Type} {P : α → Prop} {Q : β → Prop} {c : Codec α}

theorem any_yields : c.Yields Any := ⟨fun _ _ => trivial⟩

theorem double_yields : double.Yields Binary64.Finite where
  good hd hr := by
    unfold double at hr
    simp only at hr
    split at hr
    · cases hr
      exact hd
    · cases hr
      exact Binary64.ofInt_finite hd
    · exact absurd hr mismatch_ne_ok

theorem option_yields (h : c.Yields P) : c.option.Yields (fun o => ∀ a ∈ o,P a) where
  good {o d r} hd hr a ha := by
    have hsome : (c.read o d).map some = .ok r → P a := by
      intro hr
      obtain ⟨b,hb,rfl⟩ := map_eq_ok.mp hr
      cases ha
      exact h.good hd hb
    cases d with
    | null =>
      cases hr
      cases ha
    | _ => exact hsome hr

theorem mapped_yields {out : β → α} {into : α → β} (h : c.Yields P) (hq : ∀ a,P a → Q (into a)) :
    (c.mapped out into).Yields Q where
  good hd hr := by
    obtain ⟨a,ha,rfl⟩ := map_eq_ok.mp hr
    exact hq a (h.good hd ha)

theorem either_yields {name : String} {b : Codec β} (ha : c.Yields P) (hb : b.Yields Q) :
    (either name c b).Yields (fun s => (∀ x,s = .inl x → P x) ∧ ∀ y,s = .inr y → Q y) where
  good hd hr := by
    unfold either at hr
    simp only at hr
    split at hr
    · cases hr
    split at hr
    · rename_i x hx
      cases hr
      refine ⟨?_,?_⟩
      · intro x' he
        cases he
        exact ha.good hd hx
      · intro y he
        cases he
    split at hr
    · rename_i y hy
      cases hr
      refine ⟨?_,?_⟩
      · intro x he
        cases he
      · intro y' he
        cases he
        exact hb.good hd hy
    · cases hr

end Codec

/-- A slot whose reader accepts good values only, and that assumes none but good ones. -/
structure Slot.Yields {α : Type} (P : α → Prop) (slot : Slot α) : Prop where
  codec : slot.codec.Yields P
  absent : ∀ a ∈ slot.absent,P a
  short : ∀ a ∈ slot.short,P a

namespace Slot

variable {α : Type} {P : α → Prop} {c : Codec α} {name : String} {slot : Slot α}

theorem any_yields : slot.Yields Codec.Any := ⟨Codec.any_yields,fun _ _ => trivial,fun _ _ => trivial⟩

theorem required_yields (h : c.Yields P) : (required name c).Yields P where
  codec := h
  absent _ ha := by cases ha
  short _ ha := by cases ha

theorem none_good : ∀ r ∈ some (none : Option α),∀ a ∈ r,P a := by
  intro r hr a ha
  cases hr
  cases ha

theorem optional_yields (h : c.Yields P) : (optional name c).Yields (fun r => ∀ a ∈ r,P a) :=
  ⟨Codec.option_yields h,none_good,none_good⟩

theorem nullable_yields (h : c.Yields P) : (nullable name c).Yields (fun r => ∀ a ∈ r,P a) :=
  ⟨Codec.option_yields h,none_good,none_good⟩

end Slot

namespace Slots

/-- Slots that accept good values only: what is good of a record, and of a draft of one. -/
inductive Yields : {γ δ : Type} → Slots γ δ → (γ → Prop) → (δ → Prop) → Prop where
  | done : Yields .done (fun _ => True) (fun _ => True)
  | more {α γ δ : Type} {slot : Slot α} {rest : Slots γ δ} {P : α → Prop} {Q : γ → Prop} {D : δ → Prop}
      (head : slot.Yields P) (tail : Yields rest Q D) :
      Yields (.more slot rest) (fun r => P r.1 ∧ Q r.2) (fun x => (∀ a ∈ x.1,P a) ∧ D x.2)

variable {γ δ : Type} {ss : Slots γ δ} {Q : γ → Prop} {D : δ → Prop} {o : Origin}

theorem Yields.blank (h : ss.Yields Q D) : D ss.blank := by
  induction h with
  | done => trivial
  | more head tail ih =>
    refine ⟨?_,ih⟩
    intro a ha
    cases ha

theorem Yields.fill (h : ss.Yields Q D) {k : String} {d : Doc} {draft draft' : δ}
    (hd : d.Numeric Binary64.Finite)
    (hD : D draft) (hf : ss.fill o k d draft = .ok (some draft')) : D draft' := by
  induction h with
  | done => cases hf
  | @more α γ δ slot rest P Q D head tail ih =>
    obtain ⟨x,draft⟩ := draft
    simp only [Slots.fill] at hf
    split at hf
    · cases x with
      | some a => cases hf
      | none =>
        obtain ⟨a,ha,he⟩ := map_eq_ok.mp hf
        cases he
        refine ⟨?_,hD.2⟩
        intro b hb
        cases hb
        exact head.codec.good hd ha
    · obtain ⟨r,hr,he⟩ := map_eq_ok.mp hf
      obtain ⟨draft₁,rfl,he⟩ := Option.map_eq_some_iff.mp he
      cases he
      exact ⟨hD.1,ih hD.2 hr⟩

theorem Yields.readFields (h : ss.Yields Q D) {fs : List (Except Fault String × Doc)} {draft draft' : δ}
    (hd : Doc.NumericFields Binary64.Finite fs) (hD : D draft)
    (hr : ss.readFields o draft fs = .ok draft') :
    D draft' := by
  induction fs generalizing draft with
  | nil =>
    cases hr
    exact hD
  | cons f fs ih =>
    obtain ⟨k,d⟩ := f
    cases k with
    | error f => cases hr
    | ok k =>
      rw [Slots.readFields] at hr
      split at hr
      · cases hr
      · rename_i hf
        exact ih hd.2 (h.fill hd.1 hD hf) hr
      · split at hr
        · cases hr
        · exact ih hd.2 hD hr

theorem Yields.finish (h : ss.Yields Q D) {draft : δ} {r : γ} (hD : D draft)
    (hr : ss.finish draft = .ok r) : Q r := by
  induction h with
  | done => trivial
  | @more α γ δ slot rest P Q D head tail ih =>
    obtain ⟨x,draft⟩ := draft
    rw [Slots.finish] at hr
    split at hr
    · cases hr
    · rename_i a ha
      obtain ⟨r',hf,rfl⟩ := map_eq_ok.mp hr
      refine ⟨?_,ih hD.2 hf⟩
      cases x with
      | some b =>
        cases ha
        exact hD.1 _ rfl
      | none => exact head.absent a ha

theorem Yields.readItems (h : ss.Yields Q D) {expected : String} {i : Nat} {ds left : List Doc}
    {stop : Option Fault} {r : γ} (hd : Doc.NumericItems Binary64.Finite ds)
    (hr : ss.readItems o expected i ds stop = .ok (r,left)) : Q r := by
  induction h generalizing i ds left stop with
  | done => trivial
  | @more α γ δ slot rest P Q D head tail ih =>
    cases ds with
    | cons d ds =>
      obtain ⟨a,ha,hr⟩ := bind_eq_ok.mp hr
      obtain ⟨⟨r',left'⟩,hf,he⟩ := bind_eq_ok.mp hr
      cases he
      exact ⟨head.codec.good hd.1 ha,ih hd.2 hf⟩
    | nil =>
      simp only [Slots.readItems] at hr
      split at hr
      · cases hr
      · cases hr
      · rename_i a ha
        obtain ⟨⟨r',left'⟩,hf,he⟩ := map_eq_ok.mp hr
        cases he
        exact ⟨head.short a ha,ih (show Doc.NumericItems Binary64.Finite [] from trivial) hf⟩

end Slots

theorem Codec.record_yields {α γ δ : Type} {P : α → Prop} {Q : γ → Prop} {D : δ → Prop} {name : String}
    {ss : Slots γ δ} {out : α → γ} {into : γ → α} (h : ss.Yields Q D) (hq : ∀ r,Q r → P (into r)) :
    (record name ss out into).Yields P where
  good hd hr := by
    unfold record at hr
    simp only at hr
    split at hr
    · obtain ⟨inner,-,hr⟩ := bind_eq_ok.mp hr
      obtain ⟨draft,hf,hr⟩ := bind_eq_ok.mp hr
      obtain ⟨-,-,hr⟩ := bind_eq_ok.mp hr
      obtain ⟨r,hs,rfl⟩ := map_eq_ok.mp hr
      exact hq r (h.finish (h.readFields hd h.blank hf) hs)
    · obtain ⟨inner,-,hr⟩ := bind_eq_ok.mp hr
      obtain ⟨⟨r,left⟩,hi,hr⟩ := bind_eq_ok.mp hr
      simp only at hr
      split at hr
      · have he := stopped_eq_ok hr
        subst he
        exact hq r (h.readItems hd hi)
      · split at hr <;> cases hr
    · obtain ⟨inner,-,hr⟩ := bind_eq_ok.mp hr
      cases hr
    · exact absurd hr mismatch_ne_ok

theorem Reservation.codec_yields : Reservation.codec.Yields (fun r => r.cpu.Finite) :=
  Codec.record_yields (.more (Slot.required_yields Codec.double_yields) (.more Slot.any_yields .done))
    (fun _ hr => hr.1)

theorem Container.codec_yields : Container.codec.Yields (Container.Lasting Binary64.Finite) :=
  Codec.record_yields
    (.more Slot.any_yields <| .more Slot.any_yields <| .more Slot.any_yields <|
      .more Slot.any_yields <| .more Slot.any_yields <| .more Slot.any_yields <|
      .more (Slot.optional_yields Reservation.codec_yields) .done)
    (fun _ hr => hr.2.2.2.2.2.2.1)

theorem EventType.codec_yields : EventType.codec.Yields EventType.Canonical :=
  Codec.mapped_yields Codec.any_yields fun s _ => EventType.ofTag_canonical s

theorem Event.codec_yields : Event.codec.Yields (Event.Lasting Binary64.Finite) :=
  Codec.record_yields
    (.more (Slot.required_yields EventType.codec_yields) <| .more Slot.any_yields <|
      .more (Slot.optional_yields Container.codec_yields) <| .more Slot.any_yields .done)
    (fun _ hr => ⟨hr.1,hr.2.2.1⟩)

theorem StateChange.codec_yields : StateChange.codec.Yields (StateChange.Lasting Binary64.Finite) :=
  Codec.record_yields
    (.more Slot.any_yields <| .more (Slot.required_yields Event.codec_yields) <|
      .more (Slot.nullable_yields Container.codec_yields) .done)
    (fun _ hr => ⟨hr.2.1,hr.2.2.1⟩)

theorem Sample.codec_yields : Sample.codec.Yields (Sample.Lasting Binary64.Finite) :=
  Codec.record_yields
    (.more (Slot.required_yields Container.codec_yields) <| .more Slot.any_yields <|
      .more Slot.any_yields <| .more Slot.any_yields .done)
    (fun _ hr => hr.1)

theorem ReportData.codec_yields : ReportData.codec.Yields (ReportData.Lasting Binary64.Finite) := by
  refine Codec.mapped_yields (Codec.either_yields StateChange.codec_yields Sample.codec_yields) ?_
  intro s hs
  cases s with
  | inl c => exact hs.1 c rfl
  | inr s => exact hs.2 s rfl

theorem Report.codec_yields : Report.codec.Yields (Report.Lasting Binary64.Finite) :=
  Codec.record_yields
    (.more Slot.any_yields <| .more Slot.any_yields <| .more Slot.any_yields <|
      .more (Slot.required_yields ReportData.codec_yields) .done)
    (fun _ hr => hr.2.2.2.1)

/-- Some document is read as the value: one that has been taken apart, with numbers that such documents
can hold, or a text. -/
inductive Codec.Accepts {α : Type} (c : Codec α) (a : α) : Prop
  | value (v : Json) (hv : (Doc.ofJson v).Numeric Binary64.Finite) (h : c.ofJson v = .ok a)
  | text (s : String) (h : c.ofText s = .ok a)

theorem Codec.Yields.accepted {α : Type} {P : α → Prop} {c : Codec α} (hc : c.Yields P) {a : α}
    (h : c.Accepts a) : P a := by
  cases h with
  | value v hv h => exact hc.good hv h
  | text s h =>
    obtain ⟨b,hb,hs⟩ := bind_eq_ok.mp h
    have he := stopped_eq_ok hs
    subst he
    exact hc.good (Doc.read_numeric s) hb

/-- Each value that is accepted is good for finite numbers and is read back as it was written, and
written as text too if its numbers survive that. -/
def Codec.Normalizes {α : Type} (c : Codec α) (lasting : (Binary64 → Prop) → α → Prop) : Prop :=
  ∀ a,c.Accepts a → lasting Binary64.Finite a ∧ c.ofJson (c.write a) = .ok a ∧
    (lasting Binary64.Survives a → c.ofText (c.write a).text = .ok a)

theorem Codec.Yields.normalizes {α : Type} {c : Codec α} {lasting : (Binary64 → Prop) → α → Prop}
    {n : Nat} (hy : c.Yields (lasting Binary64.Finite))
    (hl : ∀ F : Binary64 → Prop,(∀ x,F x → x.isFinite = true) → c.Lawful F n (lasting F))
    (hn : n < Codec.textDepth) : c.Normalizes lasting := by
  intro a h
  have ha := hy.accepted h
  exact ⟨ha,(hl Binary64.Finite fun _ hx => hx).ofJson ha,(hl _ Binary64.Survives.isFinite).ofText hn⟩

/-- Every document that is accepted, in whatever spelling, is of a value that stays as it is from then on,
with canonical types for all its events. -/
theorem documents_settle :
    Container.codec.Normalizes Container.Lasting ∧
    Event.codec.Normalizes Event.Lasting ∧
    StateChange.codec.Normalizes StateChange.Lasting ∧
    Usage.codec.Normalizes (fun _ => Codec.Any) ∧
    Sample.codec.Normalizes Sample.Lasting ∧
    ReportData.codec.Normalizes ReportData.Lasting ∧
    Report.codec.Normalizes Report.Lasting := by
  refine ⟨?containers,?events,?changes,?usage,?samples,?data,?reports⟩
  case containers =>
    exact Container.codec_yields.normalizes (fun _ hF => Container.codec_lawful hF) (by decide)
  case events => exact Event.codec_yields.normalizes (fun _ hF => Event.codec_lawful hF) (by decide)
  case changes =>
    exact StateChange.codec_yields.normalizes (fun _ hF => StateChange.codec_lawful hF) (by decide)
  case usage =>
    exact Codec.Yields.normalizes Codec.any_yields (fun _ _ => Usage.codec_lawful) (by decide)
  case samples => exact Sample.codec_yields.normalizes (fun _ hF => Sample.codec_lawful hF) (by decide)
  case data =>
    exact ReportData.codec_yields.normalizes (fun _ hF => ReportData.codec_lawful hF) (by decide)
  case reports => exact Report.codec_yields.normalizes (fun _ hF => Report.codec_lawful hF) (by decide)

namespace StateChange

def listed : Json :=
  .arr [.obj [("stopped",.null)],.arr [.str "oom",.str "web",.null,.int 7]]

end StateChange

theorem documents_settle_listed :
    (Doc.ofJson StateChange.listed).Numeric Binary64.Finite ∧
      StateChange.codec.ofJson StateChange.listed =
        .ok { state := .stopped, source := { type := .oom, containerName := "web", timestamp := 7 } } ∧
      StateChange.codec.ofJson (StateChange.codec.write
          { state := .stopped, source := { type := .oom, containerName := "web", timestamp := 7 } }) =
        .ok { state := .stopped, source := { type := .oom, containerName := "web", timestamp := 7 } } := by
  have hn : (Doc.ofJson StateChange.listed).Numeric Binary64.Finite := by
    refine ⟨⟨trivial,trivial⟩,⟨trivial,trivial,trivial,?_,trivial⟩,trivial⟩
    exact ⟨by decide,by decide⟩
  have hr : StateChange.codec.ofJson StateChange.listed =
      .ok { state := .stopped, source := { type := .oom, containerName := "web", timestamp := 7 } } := rfl
  exact ⟨hn,hr,(documents_settle.2.2.1 _ (.value _ hn hr)).2.1⟩

end HostMeter
