import HostMeter.Program
set_option autoImplicit false

/-! The program: it looks at the files a run may need, runs a session on them, and prints what comes
of it. The end of its input is the signal that ends the session. -/

namespace HostMeter.Main

def readFile? (name : String) : IO (Option Bytes) := do
  try
    pure (some (← IO.FS.readBinFile name).data.toList)
  catch _ => pure none

def look (s : Surroundings) : List String → IO Surroundings
  | [] => pure s
  | name :: names => do
    match ← readFile? (s.fullName name) with
    | some bs => look { s with files := FileTree.put (.file bs) (s.path name) s.files } names
    | none => look s names

def sectionVariables : List String :=
  ["INSTANCE_ID","API_PORT","LOG__LEVEL","LOG__FORMAT","COLLECTOR__RATE_MS","COLLECTOR__BUFFER_SIZE",
   "TRACKING__LABEL","TRACKING__ENV","TRACKING__SERVICE_KEY_LABEL","CONTAINERS__DRIVER",
   "CONTAINERS__CGROUP_ROOT","CONTAINERS__PROC_ROOT","REPORTING__DRIVER","REPORTING__URL",
   "REPORTING__METHOD","REPORTING__RECEIPT_HEADER","REPORTING__TIMEOUT_SECS","DISPATCHER__WORKERS",
   "DISPATCHER__QUEUE_SIZE"]

def knownVariables : List String :=
  [CommandLine.fileVariable,Configuration.nodeVariable,Program.filterVariable]
    ++sectionVariables.map ("METER__"++·)

def readVariables : List String → IO (List (String × String))
  | [] => pure []
  | name :: names => do
    let rest ← readVariables names
    match ← IO.getEnv name with
    | some v => pure ((name,v) :: rest)
    | none => pure rest

def fileNames (words : List String) (env : List (String × String)) : List String :=
  match CommandLine.read words ((env.find? (·.1 == CommandLine.fileVariable)).map (·.2)) with
  | .ok (.run (some name)) => name :: Setting.extensions.map (fun e => name++"."++e.1)
  | _ => []

/-- The files that the parts of an agent look at when it begins. -/
def startFiles (c : Configuration) : List String :=
  [c.containers.cgroupRoot++"/cgroup.controllers",c.containers.procRoot++"/meminfo",
   c.containers.procRoot++"/cpuinfo"]

def logLine (format : LogFormat) (n : Notice) : String :=
  match format with
  | .text => n.plainLine
  | .json => n.line.json.text

def print : Program.Printed → IO Unit
  | .text s => IO.print s
  | .log format ns => ns.forM (fun n => IO.println (logLine format n))

end HostMeter.Main

open HostMeter HostMeter.Main in
def main (words : List String) : IO UInt32 := do
  let env ← readVariables knownVariables
  let home := Path.ofText ((← IO.getEnv "PWD").getD "/")
  let names := fileNames words env
  let s ← look { files := .dir [], home, env } names
  let drawn := toString (← IO.rand 0 (limit64-1))
  let s ← match Configuration.load s names.head? drawn with
    | .ok c => look s (startFiles c)
    | .error _ => pure s
  let session := Program.session { surroundings := s, host := ⟨"",1⟩, drawn } words "SIGTERM"
  if session.code = 0 then
    let _ ← (← IO.getStdin).getLine
  print session.printed
  (← IO.getStderr).putStr session.errors
  pure (UInt32.ofNat session.code)
