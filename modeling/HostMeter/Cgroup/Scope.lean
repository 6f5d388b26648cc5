import HostMeter.Text.Blank
set_option autoImplicit false

/-! Container ids in the names of cgroup directories. Runtimes wrap the id in a head of their own
and, under a service manager, in a tail that makes it a scope. -/

namespace HostMeter.Cgroup

def scopeHeads : List String := ["docker-","crio-","cri-containerd-","libpod-"]
def scopeTail : String := ".scope"

def isHexDigit (c : Char) : Bool :=
  c.isDigit || ('a' ≤ c && c ≤ 'f') || ('A' ≤ c && c ≤ 'F')

/-- An id is 64 hexadecimal digits. -/
def isId (cs : List Char) : Bool := cs.length = 64 && cs.all isHexDigit

def dropScopeTail (cs : List Char) : List Char := (Text.dropTail? scopeTail.toList cs).getD cs

def dropScopeHead (cs : List Char) : List Char :=
  (scopeHeads.findSome? (fun h => Text.dropHead? h.toList cs)).getD cs

def containerId (name : String) : Option String :=
  let id := dropScopeHead (dropScopeTail name.toList)
  if isId id then some (String.ofList id) else none

end HostMeter.Cgroup
