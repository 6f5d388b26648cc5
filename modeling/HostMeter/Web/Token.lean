import HostMeter.Web.Percent
set_option autoImplicit false

/-! Which texts can be a method, the name of a header and the value of a header. -/

namespace HostMeter.Web

def isMethodChar (c : Char) : Bool :=
  c.isAlphanum || ['!','*','+','-','.','^','_',grave,'|','~'].contains c

def isMethod (s : String) : Bool := !s.isEmpty && s.toList.all isMethodChar

def isNameChar (c : Char) : Bool :=
  isMethodChar c || ['"','#','$','%','&','\''].contains c

def isHeaderName (s : String) : Bool := !s.isEmpty && s.toList.all isNameChar

/-- No controls, but a tab; what lies outside ASCII is not looked at. -/
def isValueChar (c : Char) : Bool := c = '\t' || (0x20 ≤ c.toNat && c.toNat ≠ 0x7F)

def isHeaderValue (s : String) : Bool := s.toList.all isValueChar

end HostMeter.Web
