import HostMeter.Cgroup.Watch
import HostMeter.Proofs.Cgroup.Figures
import HostMeter.Proofs.Table
import HostMeter.Proofs.Text.Lines
set_option autoImplicit false

/-! Files with a key and a value per line. Each line counts by itself, and of several lines with one key the
last: so a file may be read in parts, and what is read for a key hangs on the lines that give it, in their
order, and on no other. -/

namespace HostMeter.Cgroup

open Text

variable {a b cs cs' line : List Char} {key : String} {v : UInt64} {ls ls' : List (List Char)}
  {pairs : List (String × UInt64)}

/-- A line with the key for its first word and the value for its second. -/
def Gives (line : List Char) (key : String) (v : UInt64) : Prop :=
  ∃ text more,Spaced (key.toList :: text :: more) line ∧ readWord64 text = some v

def Silent (key : String) (line : List Char) : Prop := ∀ v,¬Gives line key v

/-- The key and the digits of the value with blanks in between, and any words behind them. -/
def Pairs (e : String × UInt64) (line : List Char) : Prop :=
  ∃ more,Spaced (e.1.toList :: digits e.2 :: more) line

theorem keyedLine_eq_some : keyedLine line = some (key,v) ↔ Gives line key v := by
  unfold keyedLine Gives
  constructor
  · intro h
    split at h
    · rename_i k text more hwords
      obtain ⟨n,hn,he⟩ := Option.map_eq_some_iff.mp h
      cases he
      refine ⟨text,more,?_,hn⟩
      rw [String.toList_ofList]
      exact words_eq_iff.mp hwords
    · cases h
  · rintro ⟨text,more,hline,hv⟩
    simp [hline.words_eq,hv]

theorem keyedLine_dropReturn (line : List Char) : keyedLine (dropReturn line) = keyedLine line := by
  rw [keyedLine,words_dropReturn,keyedLine]

theorem keyedLine_pairs {e : String × UInt64} (h : Pairs e line) : keyedLine line = some e := by
  obtain ⟨more,hline⟩ := h
  exact keyedLine_eq_some.mpr ⟨digits e.2,more,hline,readWord64_digits e.2⟩

theorem silent_iff : Silent key line ↔ (keyedLine line).bind (Table.valueFor key) = none := by
  rw [Option.bind_eq_none_iff]
  constructor
  · rintro h ⟨k,v⟩ hline
    have hk : k ≠ key := fun hk => h v (keyedLine_eq_some.mp (hk ▸ hline))
    exact if_neg hk
  · intro h v hline
    have hv := h (key,v) (keyedLine_eq_some.mpr hline)
    simp [Table.valueFor] at hv

instance (key : String) (line : List Char) : Decidable (Silent key line) :=
  decidable_of_iff _ silent_iff.symm

theorem flatKeyed_append (a b : List Char) (key : String) :
    (flatKeyed (a++ '\n' :: b)).get? key = ((flatKeyed b).get? key).or ((flatKeyed a).get? key) := by
  have hlines : ∀ cs,(lines cs).filterMap keyedLine = (cs.splitOn '\n').filterMap keyedLine :=
    filterMap_lines rfl keyedLine_dropReturn 0
  unfold flatKeyed
  rw [hlines,hlines,hlines,List.splitOn_append_cons_self,List.filterMap_append,
    Table.get?_ofList_append]

theorem flatKeyed_eq (h : HasLines cs ls) : flatKeyed cs = .ofList (ls.filterMap keyedLine) :=
  congrArg Table.ofList (h.filterMap_lines rfl keyedLine_dropReturn 0)

theorem filterMap_pairs (h : List.Forall₂ Pairs pairs ls) : ls.filterMap keyedLine = pairs :=
  (filterMap_eq_of_forall₂ h fun _ _ => keyedLine_pairs).trans List.filterMap_some

/-- Lines that do not give a key may be put in, left out or moved. -/
theorem get?_flatKeyed_congr (h : HasLines cs ls) (h' : HasLines cs' ls')
    (hdiff : DifferBy (Silent key) ls ls') : (flatKeyed cs).get? key = (flatKeyed cs').get? key := by
  rw [flatKeyed_eq h,flatKeyed_eq h',Table.get?_ofList_eq_getLast?,Table.get?_ofList_eq_getLast?,
    List.filterMap_filterMap,List.filterMap_filterMap,
    hdiff.filterMap_eq fun _ => silent_iff.mp]

/-- Of two texts with a line feed in between, the second counts where it gives a key, and else the first. A
text with a line for each of some pairs gives every key its last value. Processor time and the counts of
memory running out hang on the lines that give their keys alone: others, readable or not, make no difference,
nor does their order. -/
theorem flatKeyed_last_wins :
    (∀ (a b : List Char) (key : String),
      (flatKeyed (a++ '\n' :: b)).get? key = ((flatKeyed b).get? key).or ((flatKeyed a).get? key)) ∧
    (∀ {pairs : List (String × UInt64)} {ls : List (List Char)} {cs : List Char},
      List.Forall₂ Pairs pairs ls → HasLines cs ls → ∀ key v,(flatKeyed cs).get? key = some v ↔
        ∃ before after,pairs = before++(key,v) :: after ∧ ∀ e ∈ after,e.1 ≠ key) ∧
    ∀ {ls ls' : List (List Char)} {cs cs' : List Char},HasLines cs ls → HasLines cs' ls' →
      (DifferBy (Silent "usage_usec") ls ls' → cpuStat cs = cpuStat cs') ∧
      (DifferBy (Silent "oom") ls ls' → DifferBy (Silent "oom_kill") ls ls' →
        oomCount cs = oomCount cs') := by
  refine ⟨flatKeyed_append,?_,?_⟩
  · intro pairs ls cs hpairs hcs key v
    rw [flatKeyed_eq hcs,filterMap_pairs hpairs]
    exact Table.get?_ofList
  · intro ls ls' cs cs' hcs hcs'
    refine ⟨fun hcpu => ?_,fun hoom hkill => ?_⟩
    · rw [cpuStat,cpuStat,get?_flatKeyed_congr hcs hcs' hcpu]
    · simp only [oomCount,get?_flatKeyed_congr hcs hcs' hoom,get?_flatKeyed_congr hcs hcs' hkill]

def oomLines : List (List Char) := ["oom 1".toList,"oom_kill\t3 of 4".toList,"oom  2\r".toList]

def ruffledLines : List (List Char) :=
  ["low many".toList,"oom_kill\t3 of 4".toList,"oom 1".toList,"oom  2\r".toList]

theorem flatKeyed_last_wins_ruffled :
    List.Forall₂ Pairs [("oom",1),("oom_kill",3),("oom",2)] oomLines ∧
    DifferBy (Silent "oom") oomLines ruffledLines ∧
    DifferBy (Silent "oom_kill") oomLines ruffledLines ∧
    (flatKeyed (oomLines.flatMap (·++['\n']))).get? "oom" = some 2 ∧
    oomCount (oomLines.flatMap (·++['\n'])) = oomCount (ruffledLines.flatMap (·++['\n'])) := by
  have hpairs : List.Forall₂ Pairs [("oom",1),("oom_kill",3),("oom",2)] oomLines :=
    .cons ⟨[],by decide +kernel⟩ (.cons ⟨["of".toList,"4".toList],by decide +kernel⟩
      (.cons ⟨[],by decide +kernel⟩ .nil))
  have hoom : DifferBy (Silent "oom") oomLines ruffledLines :=
    .right (by decide +kernel) (.right (by decide +kernel) (.same _ (.left (by decide +kernel)
      (.same _ .nil))))
  have hkill : DifferBy (Silent "oom_kill") oomLines ruffledLines :=
    .right (by decide +kernel) (.left (by decide +kernel) (.same _ (.right (by decide +kernel)
      (.same _ .nil))))
  have hlines : HasLines (oomLines.flatMap (·++['\n'])) oomLines := ⟨by decide +kernel,.inl rfl⟩
  have hruffled : HasLines (ruffledLines.flatMap (·++['\n'])) ruffledLines :=
    ⟨by decide +kernel,.inl rfl⟩
  refine ⟨hpairs,hoom,hkill,?_,(flatKeyed_last_wins.2.2 hlines hruffled).2 hoom hkill⟩
  exact (flatKeyed_last_wins.2.1 hpairs hlines "oom" 2).mpr
    ⟨[("oom",1),("oom_kill",3)],[],rfl,by simp⟩

end HostMeter.Cgroup
