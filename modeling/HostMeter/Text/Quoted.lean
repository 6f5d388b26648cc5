import HostMeter.Text.Hidden
set_option autoImplicit false

/-! Text between double quotes, with everything that could be misread written as an escape. -/

namespace HostMeter.Text

def codeEscape (c : Char) : List Char :=
  ['\\','u','{']++Nat.toDigits 16 c.toNat++['}']

def escape (c : Char) : List Char :=
  if c = '\x00' then ['\\','0']
  else if c = '\t' then ['\\','t']
  else if c = '\r' then ['\\','r']
  else if c = '\n' then ['\\','n']
  else if c = '"' then ['\\','"']
  else if c = '\\' then ['\\','\\']
  else if isHidden c then codeEscape c
  else [c]

def quoted (s : String) : String := String.ofList ('"' :: (s.toList.flatMap escape++['"']))

example : quoted "tab\té\\" = "\"tab\\té\\\\\"" := by decide +kernel

end HostMeter.Text
