import HostMeter.Proofs.Cgroup.Figures
import HostMeter.Proofs.Text.Lines
set_option autoImplicit false

/-! Reading back the network counters of a host. However the lines of its interfaces are laid out, and whatever
other lines stand among them, what is read is the traffic of the interfaces that are not the loopback. -/

namespace HostMeter.Cgroup

open Text

variable {a b cs first second line : List Char} {ls : List (List Char)} {us : List InterfaceUsage}

structure Interface where
  name : String
  counters : List UInt64
  named : IsWord name.toList
  plain : ':' ∉ name.toList
  enough : 9 ≤ counters.length

namespace Interface

/-- The first counter is for bytes received, the ninth for bytes sent. -/
def usage (i : Interface) : InterfaceUsage :=
  have := i.enough
  ⟨i.name,i.counters[0],i.counters[8]⟩

/-- A line for an interface: blanks or none, its name, a colon, and its counters with blanks in between. -/
def Fills (i : Interface) (line : List Char) : Prop :=
  ∃ gap data,line = gap++(i.name.toList++ ':' :: data) ∧ Blanks gap ∧
    Spaced (i.counters.map digits) data

end Interface

def metered (is : List Interface) : List InterfaceUsage :=
  (is.filter (·.name ≠ "lo")).map (·.usage)

/-- A line without a colon, or with fewer than nine fields behind the first one. -/
def IdleLine (line : List Char) : Prop :=
  ':' ∉ line ∨ ∃ name data fields,line = name++ ':' :: data ∧ ':' ∉ name ∧ Spaced fields data ∧
    fields.length < 9

theorem splitOnce_trim (h : ':' ∉ a) :
    splitOnce ':' (trim (a++ ':' :: b)) = some (trimStart a,trimEnd b) := by
  rw [splitOnce_eq_some,trim_append_cons (by decide)]
  exact ⟨rfl,fun hm => h (List.dropWhile_subset _ hm)⟩

theorem interfaceLine_idle (h : IdleLine line) : interfaceLine line = none := by
  rcases h with h | ⟨name,data,fields,rfl,hname,hdata,hlen⟩
  · have hsplit : splitOnce ':' (trim line) = none :=
      splitOnce_eq_none.mpr fun hm => h (mem_of_mem_trim hm)
    simp [interfaceLine,hsplit]
  · have hninth : (fields.map fun w => (readWord64 w).getD 0)[8]? = none := by
      rw [List.getElem?_eq_none_iff,List.length_map]
      omega
    simp only [interfaceLine,splitOnce_trim hname,Option.bind_eq_bind,Option.bind_some,words_trimEnd,
      hdata.words_eq,hninth]
    split
    · rfl
    · split
      · rename_i h
        cases h
      · rfl

theorem interfaceLine_fills {i : Interface} (h : i.Fills line) :
    interfaceLine line = if i.name = "lo" then none else some i.usage := by
  obtain ⟨gap,data,rfl,hgap,hdata⟩ := h
  have hcolon : ':' ∉ gap++i.name.toList := by
    intro hm
    rcases List.mem_append.mp hm with hm | hm
    · exact absurd (hgap ':' hm) (by decide)
    · exact i.plain hm
  have hread : (i.counters.map digits).map (fun w => (readWord64 w).getD 0) = i.counters := by
    rw [List.map_map]
    refine (List.map_congr_left fun n _ => ?_).trans (List.map_id _)
    simp [readWord64_digits]
  have henough := i.enough
  have hrx : i.counters[0]? = some i.counters[0] := List.getElem?_eq_getElem _
  have htx : i.counters[8]? = some i.counters[8] := List.getElem?_eq_getElem _
  rw [← List.append_assoc]
  simp only [interfaceLine,splitOnce_trim hcolon,Option.bind_eq_bind,Option.bind_some,words_trimEnd,
    hdata.words_eq,trimStart_gap hgap i.named,hread,hrx,htx,String.toList_inj,String.ofList_toList]
  rfl

theorem interfaceLine_dropReturn (line : List Char) :
    interfaceLine (dropReturn line) = interfaceLine line := by
  rw [interfaceLine,trim_dropReturn,interfaceLine]

theorem netDev_eq (h : HasLines cs (first :: second :: ls)) (hls : ls.filterMap interfaceLine = us) :
    netDev cs = ⟨sumWords (us.map (·.rxBytes)),sumWords (us.map (·.txBytes)),us⟩ := by
  have hread : ((lines cs).drop 2).filterMap interfaceLine = us :=
    (h.filterMap_lines rfl interfaceLine_dropReturn 2).trans hls
  rw [netDev,hread]

theorem filterMap_fills {is : List Interface} (h : List.Forall₂ Interface.Fills is ls) :
    ls.filterMap interfaceLine = metered is := by
  rw [filterMap_eq_of_forall₂ h fun _ _ => interfaceLine_fills,metered,← List.filterMap_eq_map,
    List.filterMap_filter]
  congr 1
  funext i
  simp

/-- A listing with a line for each of these interfaces, behind any two lines of headings, gives the traffic
of all of them but the loopback, in their order, and the sums of both directions where they fit in a word.
Lines without a colon or with fewer than nine fields make no difference wherever they stand behind the
headings of a listing. -/
theorem netDev_reads_back :
    (∀ {is : List Interface} {ls : List (List Char)} {first second cs : List Char},
      List.Forall₂ Interface.Fills is ls → HasLines cs (first :: second :: ls) →
      (netDev cs).interfaces = metered is ∧
        (((metered is).map (·.rxBytes.toNat)).sum < limit64 →
          (netDev cs).totalRxBytes.toNat = ((metered is).map (·.rxBytes.toNat)).sum) ∧
        (((metered is).map (·.txBytes.toNat)).sum < limit64 →
          (netDev cs).totalTxBytes.toNat = ((metered is).map (·.txBytes.toNat)).sum)) ∧
    ∀ {ls ls' : List (List Char)} {first second first' second' cs cs' : List Char},
      HasLines cs (first :: second :: ls) → HasLines cs' (first' :: second' :: ls') →
      DifferBy IdleLine ls ls' → netDev cs = netDev cs' := by
  constructor
  · intro is ls first second cs hls hcs
    rw [netDev_eq hcs (filterMap_fills hls)]
    exact ⟨rfl,toNat_sumWords,toNat_sumWords⟩
  · intro ls ls' first second first' second' cs cs' hcs hcs' hdiff
    rw [netDev_eq hcs (hdiff.filterMap_eq fun _ => interfaceLine_idle),netDev_eq hcs' rfl]

def loopback : Interface :=
  ⟨"lo",[100,1,0,0,0,0,0,0,100,1],by decide,by decide,by decide⟩

def ethernet : Interface :=
  ⟨"eth0",[2000,20,0,0,0,0,0,0,3000],by decide,by decide,by decide⟩

def interfaceLines : List (List Char) :=
  ["    lo:100 1 0 0 0 0 0 0 100 1".toList,"\teth0: 2000 20  0 0 0 0 0 0 3000\r".toList]

def tornLines : List (List Char) :=
  ["wlan0: 1 2 3 4 5 6 7 8".toList] ++ interfaceLines ++ ["end of table".toList]

theorem netDev_reads_back_ethernet :
    List.Forall₂ Interface.Fills [loopback,ethernet] interfaceLines ∧
    DifferBy IdleLine interfaceLines tornLines ∧
    (netDev (([] :: [] :: tornLines).flatMap (·++['\n']))).interfaces = [⟨"eth0",2000,3000⟩] ∧
    (netDev (([] :: [] :: tornLines).flatMap (·++['\n']))).totalTxBytes.toNat = 3000 := by
  have hfills : List.Forall₂ Interface.Fills [loopback,ethernet] interfaceLines :=
    .cons ⟨"    ".toList,"100 1 0 0 0 0 0 0 100 1".toList,by decide +kernel,by decide,by decide +kernel⟩
      (.cons ⟨['\t']," 2000 20  0 0 0 0 0 0 3000\r".toList,by decide +kernel,by decide,by decide +kernel⟩
        .nil)
  have htorn : DifferBy IdleLine interfaceLines tornLines :=
    .right (.inr ⟨"wlan0".toList," 1 2 3 4 5 6 7 8".toList,words " 1 2 3 4 5 6 7 8".toList,
        by decide +kernel,by decide,words_eq_iff.mp rfl,by decide +kernel⟩)
      (.same _ (.same _ (.right (.inl (by decide)) .nil)))
  have hlines : HasLines (([] :: [] :: interfaceLines).flatMap (·++['\n'])) ([] :: [] :: interfaceLines) :=
    ⟨by decide +kernel,.inl rfl⟩
  have hmore : HasLines (([] :: [] :: tornLines).flatMap (·++['\n'])) ([] :: [] :: tornLines) :=
    ⟨by decide +kernel,.inl rfl⟩
  refine ⟨hfills,htorn,?_⟩
  rw [← netDev_reads_back.2 hlines hmore htorn]
  obtain ⟨hall,-,htx⟩ := netDev_reads_back.1 hfills hlines
  exact ⟨hall,htx (by decide)⟩

end HostMeter.Cgroup
