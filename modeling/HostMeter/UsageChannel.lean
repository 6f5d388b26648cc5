import HostMeter.Channel
import HostMeter.Container
import HostMeter.Usage
set_option autoImplicit false

/-! Usage channels: for every container somebody samples, a queue of readings that a container
runtime fills and a poll loop empties. Both know a channel by its number. -/

namespace HostMeter

structure UsageChannel where
  container : Container
  feed : Channel Usage
  deriving DecidableEq, Repr

abbrev ChannelId := Nat

structure UsageChannels where
  all : List UsageChannel := []
  deriving DecidableEq, Repr

namespace UsageChannels

def get? (cs : UsageChannels) (i : ChannelId) : Option UsageChannel := cs.all[i]?

/-- The number the next channel gets. -/
def next (cs : UsageChannels) : ChannelId := cs.all.length

def add (cs : UsageChannels) (c : UsageChannel) : UsageChannels := ⟨cs.all++[c]⟩

def modify (cs : UsageChannels) (i : ChannelId) (f : Channel Usage → Channel Usage) :
    UsageChannels :=
  ⟨cs.all.modify i (fun c => { c with feed := f c.feed })⟩

def offer (cs : UsageChannels) (i : ChannelId) (u : Usage) : Offer × UsageChannels :=
  match cs.get? i with
  | none => (.closed,cs)
  | some c => ((c.feed.offer u).1,cs.modify i (fun f => (f.offer u).2))

def take (cs : UsageChannels) (i : ChannelId) : Taken Usage × UsageChannels :=
  match cs.get? i with
  | none => (.disconnected,cs)
  | some c => (c.feed.take.1,cs.modify i (fun f => f.take.2))

def close (cs : UsageChannels) (i : ChannelId) : UsageChannels := cs.modify i Channel.close
def cut (cs : UsageChannels) (i : ChannelId) : UsageChannels := cs.modify i Channel.cut

def name (cs : UsageChannels) (i : ChannelId) : String :=
  ((cs.get? i).map (·.container.name)).getD ""

def isRead (cs : UsageChannels) (i : ChannelId) : Bool := ((cs.get? i).map (·.feed.read)).getD false

theorem get?_modify (cs : UsageChannels) (i j : ChannelId) (f : Channel Usage → Channel Usage) :
    (cs.modify i f).get? j =
      if i = j then (cs.get? j).map (fun c => { c with feed := f c.feed }) else cs.get? j := by
  simp only [get?,modify,List.getElem?_modify]
  split <;> rename_i h
  · simp
  · simp

theorem get?_add_next (cs : UsageChannels) (c : UsageChannel) : (cs.add c).get? cs.next = some c := by
  simp [get?,add,next]

end UsageChannels

end HostMeter
