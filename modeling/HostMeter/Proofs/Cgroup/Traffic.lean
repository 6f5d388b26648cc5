import HostMeter.Proofs.Cgroup.Figures
import HostMeter.Proofs.Text.Lines
set_option autoImplicit false

/-! The traffic of devices. There is a number for every line that is not blank, in the order of the lines, and
it is the sum of what the words behind the device say of bytes read and written, in whatever order they
stand and with whatever other words among them. -/

namespace HostMeter.Cgroup

open Text

variable {cs w line : List Char}

structure Row where
  device : List Char
  told : List (List Char)

structure Device where
  name : String
  entries : List (String × UInt64)

def entryWord (e : String × UInt64) : List Char := e.1.toList++ '=' :: digits e.2

namespace Device

def row (d : Device) : Row := ⟨d.name.toList,d.entries.map entryWord⟩

def moved (d : Device) : Nat :=
  ((d.entries.filter fun e => e.1 = "rbytes" ∨ e.1 = "wbytes").map (·.2.toNat)).sum

end Device

/-- A text with a line for each of these rows, and blank lines or none among them. -/
def Spells (cs : List Char) (rows : List Row) : Prop :=
  ∃ ls ls',List.Forall₂ (fun r line => Spaced (r.device :: r.told) line) rows ls ∧
    DifferBy Blanks ls ls' ∧ HasLines cs ls'

/-- A word without an equals sign, with another key before the first one, or with no number behind it. -/
def IdleWord (w : List Char) : Prop :=
  '=' ∉ w ∨ ∃ key value : List Char,w = key++ '=' :: value ∧ '=' ∉ key ∧
    (key ≠ "rbytes".toList ∧ key ≠ "wbytes".toList ∨ readWord64 value = none)

/-- The same device, and the same words in any order with idle words among them. -/
def Reworded (r r' : Row) : Prop :=
  r'.device = r.device ∧ ∃ idle,(∀ w ∈ idle,IdleWord w) ∧ r'.told.Perm (r.told++idle)

theorem isTraffic_iff {key : List Char} :
    isTraffic key = true ↔ key = "rbytes".toList ∨ key = "wbytes".toList := by
  simp only [isTraffic,Bool.or_eq_true,decide_eq_true_eq]

theorem trafficWord_idle (h : IdleWord w) : trafficWord w = none := by
  rcases h with h | ⟨key,value,rfl,hkey,h⟩
  · rw [trafficWord,splitOnce_eq_none.mpr h]
    rfl
  · simp only [trafficWord,splitOnce_eq_some.mpr ⟨rfl,hkey⟩,Option.bind_some]
    rcases h with h | h
    · exact if_neg fun ht => (isTraffic_iff.mp ht).elim h.1 h.2
    · rw [h,ite_self]

theorem trafficWord_entry (e : String × UInt64) :
    trafficWord (entryWord e) = if e.1 = "rbytes" ∨ e.1 = "wbytes" then some e.2 else none := by
  by_cases hm : '=' ∈ e.1.toList
  · -- The word is split within the key, and what is behind the split is no number.
    obtain ⟨key,rest,hkey,hfirst⟩ := List.eq_append_cons_of_mem hm
    have hidle : IdleWord (entryWord e) := by
      refine .inr ⟨key,rest++ '=' :: digits e.2,?_,hfirst,.inr ?_⟩
      · rw [entryWord,hkey,List.append_assoc,List.cons_append]
      · exact readWord64_eq_none (List.mem_append_right _ List.mem_cons_self) (by decide) (by decide)
    have hother : ¬(e.1 = "rbytes" ∨ e.1 = "wbytes") := by
      rintro (h | h) <;> rw [h] at hm <;> exact absurd hm (by decide)
    rw [trafficWord_idle hidle,if_neg hother]
  · simp only [trafficWord,entryWord,splitOnce_eq_some.mpr ⟨rfl,hm⟩,Option.bind_some,
      readWord64_digits,isTraffic_iff,String.toList_inj]

theorem filterMap_entries (es : List (String × UInt64)) :
    (es.map entryWord).filterMap trafficWord =
      (es.filter fun e => e.1 = "rbytes" ∨ e.1 = "wbytes").map (·.2) := by
  induction es with
  | nil => rfl
  | cons e es ih =>
    rw [List.map_cons,List.filterMap_cons,trafficWord_entry,ih,List.filter_cons]
    by_cases he : e.1 = "rbytes" ∨ e.1 = "wbytes" <;> simp [he]

def deviceLine (line : List Char) : Option UInt64 :=
  if Blanks line then none else some (deviceTraffic line)

theorem ioStat_eq (cs : List Char) : ioStat cs = (lines cs).filterMap deviceLine := by
  rw [ioStat,← List.filterMap_eq_map,List.filterMap_filter]
  congr 1
  funext line
  simp [deviceLine,trim_eq_nil_iff]

theorem deviceLine_dropReturn (line : List Char) : deviceLine (dropReturn line) = deviceLine line := by
  have hblank : Blanks (dropReturn line) ↔ Blanks line := by
    rw [← trim_eq_nil_iff,trim_dropReturn,trim_eq_nil_iff]
  simp only [deviceLine,hblank,deviceTraffic,words_dropReturn]

def Row.traffic (r : Row) : UInt64 := sumWords (r.told.filterMap trafficWord)

theorem deviceLine_blanks (h : Blanks line) : deviceLine line = none := if_pos h

theorem deviceLine_spaced {r : Row} (h : Spaced (r.device :: r.told) line) :
    deviceLine line = some r.traffic := by
  have hfull : ¬Blanks line := fun hb => List.cons_ne_nil _ _ (h.words_eq.symm.trans (words_blanks hb))
  rw [deviceLine,if_neg hfull,deviceTraffic,h.words_eq]
  rfl

theorem toNat_traffic {d : Device} (h : d.moved < limit64) : d.row.traffic.toNat = d.moved := by
  rw [Row.traffic,Device.row,filterMap_entries]
  exact toNat_sumWords h

theorem traffic_reworded {r r' : Row} (h : Reworded r r') : r'.traffic = r.traffic := by
  obtain ⟨-,idle,hidle,hperm⟩ := h
  have hnone : idle.filterMap trafficWord = [] :=
    List.filterMap_eq_nil_iff.mpr fun w hw => trafficWord_idle (hidle w hw)
  have hread : (r'.told.filterMap trafficWord).Perm (r.told.filterMap trafficWord) := by
    have h := hperm.filterMap trafficWord
    rwa [List.filterMap_append,hnone,List.append_nil] at h
  exact sumWords_perm hread

theorem map_traffic_reworded {rows rows' : List Row} (h : List.Forall₂ Reworded rows rows') :
    rows'.map Row.traffic = rows.map Row.traffic := by
  induction h with
  | nil => rfl
  | cons hr _ ih => rw [List.map_cons,List.map_cons,traffic_reworded hr,ih]

theorem ioStat_spells {rows : List Row} (h : Spells cs rows) : ioStat cs = rows.map Row.traffic := by
  obtain ⟨ls,ls',hls,hdiff,hcs⟩ := h
  calc ioStat cs = (lines cs).filterMap deviceLine := ioStat_eq cs
    _ = ls'.filterMap deviceLine := hcs.filterMap_lines rfl deviceLine_dropReturn 0
    _ = ls.filterMap deviceLine := (hdiff.filterMap_eq fun _ => deviceLine_blanks).symm
    _ = rows.filterMap (some ∘ Row.traffic) := filterMap_eq_of_forall₂ hls fun _ _ => deviceLine_spaced
    _ = rows.map Row.traffic := congrFun List.filterMap_eq_map rows

/-- A text with a line per device gives a number per device, in their order: the sum of what was read and
written, where it fits in a word. The words behind a device may stand in another order, and words without an
equals sign, with other keys or with no number may be added. -/
theorem ioStat_sums :
    (∀ {ds : List Device} {cs : List Char},Spells cs (ds.map (·.row)) →
      List.Forall₂ (fun d n => d.moved < limit64 → n.toNat = d.moved) ds (ioStat cs)) ∧
    ∀ {rows rows' : List Row} {cs cs' : List Char},Spells cs rows → Spells cs' rows' →
      List.Forall₂ Reworded rows rows' → ioStat cs' = ioStat cs := by
  constructor
  · intro ds cs hcs
    rw [ioStat_spells hcs,List.map_map,List.forall₂_map_right_iff,List.forall₂_same]
    exact fun d _ => toNat_traffic
  · intro rows rows' cs cs' hcs hcs' hall
    rw [ioStat_spells hcs,ioStat_spells hcs',map_traffic_reworded hall]

def disks : List Device :=
  [⟨"8:0",[("rbytes",1024),("rios",12),("wbytes",2048)]⟩,⟨"254:0",[("wbytes",7)]⟩]

def diskLines : List (List Char) :=
  ["8:0 rbytes=1024 rios=12\twbytes=2048\r".toList," ".toList," 254:0 wbytes=7".toList]

def stirredDisks : List Row :=
  [⟨"8:0".toList,["wbytes=2048".toList,"wbytes=-1".toList,"rbytes=1024".toList,"rios=12".toList,
      "wbytes".toList]⟩,
    ⟨"254:0".toList,["wbytes=7".toList]⟩]

def stirredLines : List (List Char) :=
  ["8:0 wbytes=2048 wbytes=-1 rbytes=1024 rios=12 wbytes".toList,"254:0 wbytes=7".toList]

theorem ioStat_sums_disks :
    Spells (diskLines.flatMap (·++['\n'])) (disks.map (·.row)) ∧
    Spells (stirredLines.flatMap (·++['\n'])) stirredDisks ∧
    List.Forall₂ Reworded (disks.map (·.row)) stirredDisks ∧
    List.Forall₂ (fun d n => d.moved < limit64 → n.toNat = d.moved) disks
      (ioStat (stirredLines.flatMap (·++['\n']))) := by
  have hplain : Spells (diskLines.flatMap (·++['\n'])) (disks.map (·.row)) :=
    ⟨[diskLines[0],diskLines[2]],diskLines,.cons (by decide +kernel) (.cons (by decide +kernel) .nil),
      .same _ (.right (by decide) (.same _ .nil)),by decide +kernel,.inl rfl⟩
  have hstirred : Spells (stirredLines.flatMap (·++['\n'])) stirredDisks :=
    ⟨stirredLines,stirredLines,.cons (by decide +kernel) (.cons (by decide +kernel) .nil),
      .same _ (.same _ .nil),by decide +kernel,.inl rfl⟩
  have hsame : List.Forall₂ Reworded (disks.map (·.row)) stirredDisks := by
    refine .cons ⟨rfl,["wbytes=-1".toList,"wbytes".toList],?_,by decide +kernel⟩
      (.cons ⟨rfl,[],by simp,by decide +kernel⟩ .nil)
    intro w hw
    simp only [List.mem_cons,List.not_mem_nil,or_false] at hw
    rcases hw with rfl | rfl
    · exact .inr ⟨"wbytes".toList,"-1".toList,by decide +kernel,by decide +kernel,
        .inr (by decide +kernel)⟩
    · exact .inl (by decide +kernel)
  refine ⟨hplain,hstirred,hsame,?_⟩
  rw [ioStat_sums.2 hplain hstirred hsame]
  exact ioStat_sums.1 hplain

end HostMeter.Cgroup
