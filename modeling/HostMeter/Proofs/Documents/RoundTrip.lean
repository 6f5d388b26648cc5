import HostMeter.Proofs.Documents.Records
import HostMeter.Report
set_option autoImplicit false

/-! The documents of the meter are read back as they were written, from their text and from their value:
containers, usage, events, state changes, samples and reports, whatever parts they have. -/

namespace HostMeter

variable {F : Binary64 → Prop}

/-! An event type is canonical when it does not disguise a known one, and the one part that is a double has to
have a property, such as a text that is read as itself. -/

def Container.Lasting (F : Binary64 → Prop) (c : Container) : Prop := ∀ r ∈ c.reserved,F r.cpu

def Event.Lasting (F : Binary64 → Prop) (e : Event) : Prop :=
  e.type.Canonical ∧ ∀ c ∈ e.container,c.Lasting F

def StateChange.Lasting (F : Binary64 → Prop) (s : StateChange) : Prop :=
  s.source.Lasting F ∧ ∀ c ∈ s.container,c.Lasting F

def Sample.Lasting (F : Binary64 → Prop) (s : Sample) : Prop := s.container.Lasting F

def ReportData.Lasting (F : Binary64 → Prop) : ReportData → Prop
  | .change c => c.Lasting F
  | .sample s => s.Lasting F

def Report.Lasting (F : Binary64 → Prop) (r : Report) : Prop := r.data.Lasting F

theorem Machine.codec_lawful : Machine.codec.Lawful F 1 Codec.Any :=
  Codec.record_lawful
    (.more (Slot.required_lawful Codec.text_lawful) (by decide) <|
      .more (Slot.required_lawful Codec.word32_lawful) (by decide) <|
      .more (Slot.required_lawful Codec.word64_lawful) (by decide) <|
      .more (Slot.required_lawful Codec.word64_lawful) (by decide) .done)
    (fun _ => rfl) (fun _ _ => ⟨trivial,trivial,trivial,trivial,trivial⟩)

variable (hF : ∀ x,F x → x.isFinite = true)

include hF

theorem Reservation.codec_lawful : Reservation.codec.Lawful F 1 (fun r => F r.cpu) :=
  Codec.record_lawful
    (.more (Slot.required_lawful (Codec.double_lawful hF)) (by decide) <|
      .more (Slot.required_lawful Codec.word64_lawful) (by decide) .done)
    (fun _ => rfl) (fun _ hr => ⟨hr,trivial,trivial⟩)

theorem Container.codec_lawful : Container.codec.Lawful F 2 (Container.Lasting F) :=
  have text : Codec.text.Lawful F 1 Codec.Any := Codec.text_lawful.mono (by decide)
  have texts : Codec.text.table.Lawful F 1 Codec.Any := Codec.table_lawful Codec.text_lawful
  Codec.record_lawful
    (.more (Slot.required_lawful text) (by decide) <|
      .more (Slot.defaulted_lawful texts) (by decide) <|
      .more (Slot.defaulted_lawful texts) (by decide) <|
      .more (Slot.defaulted_lawful text) (by decide) <|
      .more (Slot.defaulted_lawful text) (by decide) <|
      .more (Slot.optional_lawful Machine.codec_lawful Codec.record_write_ne_null) (by decide) <|
      .more (Slot.optional_lawful (Reservation.codec_lawful hF) Codec.record_write_ne_null)
        (by decide) .done)
    (fun _ => rfl)
    (fun _ hc => ⟨trivial,trivial,trivial,trivial,trivial,fun _ _ => trivial,hc,trivial⟩)

omit hF

theorem MemoryUsage.codec_lawful : MemoryUsage.codec.Lawful F 1 Codec.Any :=
  Codec.record_lawful (.more (Slot.required_lawful Codec.word64_lawful) (by decide) .done)
    (fun _ => rfl) (fun _ _ => ⟨trivial,trivial⟩)

theorem InterfaceUsage.codec_lawful : InterfaceUsage.codec.Lawful F 1 Codec.Any :=
  Codec.record_lawful
    (.more (Slot.required_lawful Codec.text_lawful) (by decide) <|
      .more (Slot.required_lawful Codec.word64_lawful) (by decide) <|
      .more (Slot.required_lawful Codec.word64_lawful) (by decide) .done)
    (fun _ => rfl) (fun _ _ => ⟨trivial,trivial,trivial,trivial⟩)

theorem NetworkUsage.codec_lawful : NetworkUsage.codec.Lawful F 3 Codec.Any :=
  have word : Codec.word64.Lawful F 2 Codec.Any := Codec.word64_lawful.mono (by decide)
  Codec.record_lawful
    (.more (Slot.required_lawful word) (by decide) <|
      .more (Slot.required_lawful word) (by decide) <|
      .more (Slot.defaulted_lawful (Codec.list_lawful InterfaceUsage.codec_lawful)) (by decide) .done)
    (fun _ => rfl) (fun _ _ => ⟨trivial,trivial,fun _ _ => trivial,trivial⟩)

theorem CpuUsage.codec_lawful : CpuUsage.codec.Lawful F 2 Codec.Any :=
  Codec.record_lawful
    (.more (Slot.required_lawful (Codec.word64_lawful.mono (by decide))) (by decide) <|
      .more (Slot.listing_lawful Codec.word64_lawful) (by decide) .done)
    (fun _ => rfl) (fun _ _ => ⟨trivial,fun _ _ => trivial,trivial⟩)

theorem DiskUsage.codec_lawful : DiskUsage.codec.Lawful F 2 Codec.Any :=
  Codec.record_lawful (.more (Slot.listing_lawful Codec.word64_lawful) (by decide) .done)
    (fun _ => rfl) (fun _ _ => ⟨fun _ _ => trivial,trivial⟩)

theorem Usage.codec_lawful : Usage.codec.Lawful F 4 Codec.Any :=
  Codec.record_lawful
    (.more (Slot.optional_lawful (CpuUsage.codec_lawful.mono (by decide)) Codec.record_write_ne_null)
        (by decide) <|
      .more (Slot.optional_lawful (MemoryUsage.codec_lawful.mono (by decide))
        Codec.record_write_ne_null) (by decide) <|
      .more (Slot.optional_lawful NetworkUsage.codec_lawful Codec.record_write_ne_null)
        (by decide) <|
      .more (Slot.optional_lawful (DiskUsage.codec_lawful.mono (by decide))
        Codec.record_write_ne_null) (by decide) .done)
    (fun _ => rfl)
    (fun _ _ => ⟨fun _ _ => trivial,fun _ _ => trivial,fun _ _ => trivial,fun _ _ => trivial,trivial⟩)

theorem EventType.codec_lawful : EventType.codec.Lawful F 0 EventType.Canonical :=
  Codec.mapped_lawful Codec.text_lawful fun _ ht => ⟨trivial,EventType.ofTag_tag ht⟩

theorem State.codec_lawful : State.codec.Lawful F 0 Codec.Any :=
  Codec.oneOf_lawful fun s => by cases s <;> rfl

include hF

theorem Event.codec_lawful : Event.codec.Lawful F 3 (Event.Lasting F) :=
  Codec.record_lawful
    (.more (Slot.required_lawful (EventType.codec_lawful.mono (by decide))) (by decide) <|
      .more (Slot.required_lawful (Codec.text_lawful.mono (by decide))) (by decide) <|
      .more (Slot.optional_lawful (Container.codec_lawful hF) Codec.record_write_ne_null)
        (by decide) <|
      .more (Slot.required_lawful (Codec.int64_lawful.mono (by decide))) (by decide) .done)
    (fun _ => rfl) (fun _ he => ⟨he.1,trivial,he.2,trivial,trivial⟩)

theorem StateChange.codec_lawful : StateChange.codec.Lawful F 5 (StateChange.Lasting F) :=
  Codec.record_lawful
    (.more (Slot.required_lawful (State.codec_lawful.mono (by decide))) (by decide) <|
      .more (Slot.required_lawful ((Event.codec_lawful hF).mono (by decide))) (by decide) <|
      .more (Slot.nullable_lawful ((Container.codec_lawful hF).mono (by decide))
        Codec.record_write_ne_null) (by decide) .done)
    (fun _ => rfl) (fun _ hs => ⟨trivial,hs.1,hs.2,trivial⟩)

theorem Sample.codec_lawful : Sample.codec.Lawful F 5 (Sample.Lasting F) :=
  Codec.record_lawful
    (.more (Slot.required_lawful ((Container.codec_lawful hF).mono (by decide))) (by decide) <|
      .more (Slot.required_lawful Usage.codec_lawful) (by decide) <|
      .more (Slot.required_lawful (Codec.int64_lawful.mono (by decide))) (by decide) <|
      .more (Slot.required_lawful (Codec.word64_lawful.mono (by decide))) (by decide) .done)
    (fun _ => rfl) (fun _ hs => ⟨hs,trivial,trivial,trivial,trivial⟩)

omit hF

/-- A change has a state, which no sample has. -/
theorem StateChange.read_sample (s : Sample) :
    ∃ e,StateChange.codec.read .value (.ofJson (Sample.codec.write s)) = .error e := by
  apply Codec.record_missing rfl
  intro f hf hk
  have hn := Slots.names_write _ _ f hf
  rw [hk] at hn
  revert hn
  decide

include hF

theorem ReportData.codec_lawful : ReportData.codec.Lawful F 5 (ReportData.Lasting F) := by
  apply Codec.mapped_lawful (Codec.either_lawful (StateChange.codec_lawful hF)
    (Sample.codec_lawful hF) (by decide) StateChange.read_sample)
  intro d hd
  cases d with
  | change c =>
    refine ⟨⟨?_,?_⟩,rfl⟩
    · intro x hx
      cases hx
      exact hd
    · intro y hy
      cases hy
  | sample s =>
    refine ⟨⟨?_,?_⟩,rfl⟩
    · intro x hx
      cases hx
    · intro y hy
      cases hy
      exact hd

theorem Report.codec_lawful : Report.codec.Lawful F 6 (Report.Lasting F) :=
  Codec.record_lawful
    (.more (Slot.required_lawful (Codec.text_lawful.mono (by decide))) (by decide) <|
      .more (Slot.required_lawful (Codec.text_lawful.mono (by decide))) (by decide) <|
      .more (Slot.required_lawful (Codec.int64_lawful.mono (by decide))) (by decide) <|
      .more (Slot.required_lawful (ReportData.codec_lawful hF)) (by decide) .done)
    (fun _ => rfl) (fun _ hr => ⟨trivial,trivial,trivial,hr,trivial⟩)

omit hF

/-- What is written of a value is read as that value, from its text as well as from its parts. -/
def Codec.Returns {α : Type} (c : Codec α) (a : α) : Prop :=
  c.ofText (c.write a).text = .ok a ∧ c.ofJson (c.write a) = .ok a

theorem Codec.Lawful.ofJson {α : Type} {c : Codec α} {n : Nat} {P : α → Prop} {a : α}
    (h : c.Lawful F n P) (ha : P a) : c.ofJson (c.write a) = .ok a :=
  h.restores (o := .value) trivial ha

theorem Codec.Lawful.ofText {α : Type} {c : Codec α} {n : Nat} {P : α → Prop} {a : α}
    (h : c.Lawful Binary64.Survives n P) (hn : n < Codec.textDepth) (ha : P a) :
    c.ofText (c.write a).text = .ok a := by
  have hd := h.restores (o := .text Codec.textDepth) hn ha
  rw [Codec.ofText,Doc.read_text (h.numeric ha)]
  show (c.read (.text Codec.textDepth) (.ofJson (c.write a))).bind (stopped none) = .ok a
  rw [hd]
  rfl

theorem Codec.Lawful.returns {α : Type} {c : Codec α} {n : Nat} {P : α → Prop} {a : α}
    (h : c.Lawful Binary64.Survives n P) (hn : n < Codec.textDepth) (ha : P a) : c.Returns a :=
  ⟨h.ofText hn ha,h.ofJson ha⟩

theorem Binary64.Survives.isFinite (x : Binary64) (h : x.Survives) : x.isFinite = true := h.1

/-- Whatever parts they have, reports and all that is inside them come back, and a sample never comes
back as a change. -/
theorem documents_return :
    (∀ r : Report,r.Lasting Binary64.Survives → Report.codec.Returns r) ∧
    (∀ s : StateChange,s.Lasting Binary64.Survives → StateChange.codec.Returns s) ∧
    (∀ s : Sample,s.Lasting Binary64.Survives → Sample.codec.Returns s) ∧
    (∀ e : Event,e.Lasting Binary64.Survives → Event.codec.Returns e) ∧
    (∀ c : Container,c.Lasting Binary64.Survives → Container.codec.Returns c) ∧
    (∀ u : Usage,Usage.codec.Returns u) ∧
    ∀ (s : Sample) (c : StateChange),StateChange.codec.ofJson (Sample.codec.write s) ≠ .ok c := by
  have hF := Binary64.Survives.isFinite
  refine ⟨?reports,?changes,?samples,?events,?containers,?usage,?apart⟩
  case reports => exact fun r hr => (Report.codec_lawful hF).returns (by decide) hr
  case changes => exact fun s hs => (StateChange.codec_lawful hF).returns (by decide) hs
  case samples => exact fun s hs => (Sample.codec_lawful hF).returns (by decide) hs
  case events => exact fun e he => (Event.codec_lawful hF).returns (by decide) he
  case containers => exact fun c hc => (Container.codec_lawful hF).returns (by decide) hc
  case usage => exact fun u => Usage.codec_lawful.returns (by decide) trivial
  case apart =>
    intro s c hc
    obtain ⟨e,he⟩ := StateChange.read_sample s
    have hc : StateChange.codec.read .value (.ofJson (Sample.codec.write s)) = .ok c := hc
    rw [he] at hc
    cases hc

namespace Sample

def reserved : Sample where
  container := { name := "web", reserved := some ⟨.ofDecimal false 15 (-1),1048576⟩ }
  usage := { cpu := some { total := 7, perCore := [3,4] } }
  timestamp := 1700000000
  frameMs := 100

end Sample

theorem documents_return_sample :
    (Report.ofSample "meter" .reserved 1700000001).Lasting Binary64.Survives ∧
      Report.codec.Returns (Report.ofSample "meter" .reserved 1700000001) := by
  have hs : (Report.ofSample "meter" .reserved 1700000001).Lasting Binary64.Survives := by
    intro r hr
    cases hr
    decide +kernel
  exact ⟨hs,documents_return.1 _ hs⟩

end HostMeter
