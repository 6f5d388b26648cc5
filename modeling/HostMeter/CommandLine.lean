set_option autoImplicit false

/-! The command line: one option that names a configuration file, and requests for help and for the
version. Mistakes are explained, and a word close to an option is answered with that option. -/

namespace HostMeter

inductive Command
  | run (config : Option String)
  | help
  | version
  deriving DecidableEq, Repr

inductive UsageError
  /-- A word nothing is known about, the option it resembles, and whether a file was named before. -/
  | unexpected (word : String) (similar : Option String) (named : Bool)
  | missingFile
  | repeatedFile
  deriving DecidableEq, Repr

namespace CommandLine

def program : String := "meter-agent"
def versionNumber : String := "0.1.0"
def fileVariable : String := "METER_CONFIG"
def fileOption : String := "--config <CONFIG>"
def longOptions : List String := ["config","help","version"]

def versionText : String := program++" "++versionNumber++"\n"

/-- The help shows what the variable for the file holds. -/
def helpText (preset? : Option String) : String :=
  "Per-host container usage meter\n\nUsage: "++program++" [OPTIONS]\n\nOptions:\n"
    ++"  -c, "++fileOption++"  Configuration file (YAML, TOML or JSON) [env: "++fileVariable++"="
    ++preset?.getD ""++"]\n"
    ++"  -h, --help             Print help\n"
    ++"  -V, --version          Print version\n"

/-- The first place at most `reach` away from `i` whose letter is still free and the same. -/
def partner? (c : Char) (bs : List Char) (used : List Nat) (i reach : Nat) : Option Nat :=
  (List.range bs.length).find? fun j =>
    i ≤ j+reach && j ≤ i+reach && !used.contains j && bs[j]? == some c

def pairs (as bs : List Char) : List (Nat × Nat) :=
  let reach := max as.length bs.length/2-1
  (as.zipIdx.foldl (fun (ps : List (Nat × Nat)) (c,i) =>
    match partner? c bs (ps.map (·.2)) i reach with
    | some j => (i,j) :: ps
    | none => ps) []).reverse

/-- Two words are alike when more than seven tenths of them agree: the mean of the shares of letters
in common, on either side, and of those among them in the same order. -/
def alike (a b : String) : Bool :=
  let (as,bs) := (a.toList,b.toList)
  let ps := pairs as bs
  let m := ps.length
  let inOrder := (List.range bs.length).filter ((ps.map (·.2)).contains ·)
  let moved := ((ps.zip inOrder).countP fun (p,j) => as[p.1]? != bs[j]?)/2
  let (la,lb) := (as.length,bs.length)
  decide (0 < m ∧ 21*la*lb*m < 10*(m*m*(la+lb)+la*lb*(m-moved)))

def similar? (name : String) : Option String := longOptions.find? (alike name)

/-- What an option's value may look like: not like an option itself. -/
def isValue (w : String) : Bool := w == "-" || !w.startsWith "-"

def nameFile (named : Option String) (value : String) : Except UsageError (Option String) :=
  if named.isSome then .error .repeatedFile
  else if value = "" then .error .missingFile
  else .ok (some value)

def dropEqual (cs : List Char) : List Char :=
  match cs with
  | '=' :: cs => cs
  | cs => cs

/-- The words from left to right; help and version are answered at once. -/
def readWords (named : Option String) : List String → Except UsageError Command
  | [] => .ok (.run named)
  | w :: ws =>
    match w.toList with
    | ['-','-'] => match ws with
      | [] => .ok (.run named)
      | x :: _ => .error (.unexpected x none false)
    | '-' :: '-' :: cs =>
      let name := String.ofList (cs.takeWhile (· ≠ '='))
      let value? := (cs.dropWhile (· ≠ '=')).tail?
      if name = "help" then .ok .help
      else if name = "version" then .ok .version
      else if name = "config" then
        match value?,ws with
        | some v,ws => (nameFile named (String.ofList v)).bind fun named => readWords named ws
        | none,v :: ws =>
          if isValue v then (nameFile named v).bind fun named => readWords named ws
          else .error .missingFile
        | none,[] => .error .missingFile
      else .error (.unexpected ("--"++name) (similar? name) named.isSome)
    | '-' :: 'h' :: _ => .ok .help
    | '-' :: 'V' :: _ => .ok .version
    | ['-','c'] => match ws with
      | v :: ws =>
        if isValue v then (nameFile named v).bind fun named => readWords named ws
        else .error .missingFile
      | [] => .error .missingFile
    | '-' :: 'c' :: cs =>
      (nameFile named (String.ofList (dropEqual cs))).bind fun named => readWords named ws
    | '-' :: c :: _ => .error (.unexpected (String.ofList ['-',c]) none false)
    | _ => .error (.unexpected w none false)

/-- The variable names the file when no word does. -/
def read (words : List String) (preset? : Option String) : Except UsageError Command :=
  match readWords none words,preset? with
  | .ok (.run none),some "" => .error .missingFile
  | .ok (.run none),some file => .ok (.run (some file))
  | r,_ => r

end CommandLine

namespace UsageError

def usage (shown : String) : String := "\n\nUsage: "++CommandLine.program++" "++shown

def explain : UsageError → String
  | .unexpected word none named =>
    "unexpected argument '"++word++"' found"
      ++usage (if named then CommandLine.fileOption else "[OPTIONS]")
  | .unexpected word (some name) _ =>
    "unexpected argument '"++word++"' found\n\n  tip: a similar argument exists: '--"++name++"'"
      ++usage (if name = "config" then CommandLine.fileOption else "--"++name)
  | .missingFile => "a value is required for '"++CommandLine.fileOption++"' but none was supplied"
  | .repeatedFile =>
    "the argument '"++CommandLine.fileOption++"' cannot be used multiple times"++usage "[OPTIONS]"

def text (e : UsageError) : String :=
  "error: "++e.explain++"\n\nFor more information, try '--help'.\n"

end UsageError

example : CommandLine.alike "verbose" "version" = true := by decide +kernel
example : CommandLine.alike "bogus" "config" = false := by decide +kernel

end HostMeter
