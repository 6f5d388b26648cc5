import HostMeter.Web.Host
set_option autoImplicit false

/-! Addresses that reports can be sent to, in their normal form. -/

namespace HostMeter.Web

inductive EndpointError
  | missing
  | relative
  | host (e : HostError)
  | portNumber
  | scheme (s : String)
  deriving DecidableEq, Repr

def EndpointError.message : EndpointError → String
  | .missing => "no url configured"
  | .relative => "relative URL without a base"
  | .host e => e.message
  | .portNumber => "invalid port number"
  | .scheme s => "unsupported scheme "++s

structure Endpoint where
  scheme : String
  /-- User and password with the sign behind them, or nothing. -/
  userinfo : String
  host : String
  /-- Absent when it is the one of the scheme. -/
  portNumber : Option Nat
  path : String
  query : Option String
  fragment : Option String
  deriving DecidableEq, Repr

namespace Endpoint

def target (e : Endpoint) : String := e.path++((e.query.map ("?"++·)).getD "")

def text (e : Endpoint) : String :=
  e.scheme++"://"++e.userinfo++e.host++((e.portNumber.map (fun p => ":"++toString p)).getD "")++e.target
    ++((e.fragment.map ("#"++·)).getD "")

/-- Controls and spaces around an address are not part of it, nor are tabs and line ends in it. -/
def bare (s : String) : List Char :=
  let edge (c : Char) : Bool := c.toNat ≤ 0x20
  let cs := (((s.toList.dropWhile edge).reverse).dropWhile edge).reverse
  cs.filter (fun c => c ≠ '\t' ∧ c ≠ '\n' ∧ c ≠ '\r')

def isSchemeChar (c : Char) : Bool := c.isAlphanum || c = '+' || c = '-' || c = '.'

def splitScheme (cs : List Char) : Option (String × List Char) :=
  match Text.splitOnce ':' cs with
  | some (s,rest) =>
    if (s.head?.map Char.isAlpha).getD false && s.all isSchemeChar then
      some (String.ofList (lowerAscii s),rest)
    else none
  | none => none

def schemePort? (scheme : String) : Option Nat :=
  match scheme with
  | "http" | "ws" => some 80
  | "https" | "wss" => some 443
  | "ftp" => some 21
  | _ => none

/-- The schemes whose addresses name a host by well-known rules. -/
def isSpecial (scheme : String) : Bool := (schemePort? scheme).isSome

def isSlash (special : Bool) (c : Char) : Bool := c = '/' || (special && c = '\\')

def endsAuthority (special : Bool) (c : Char) : Bool := isSlash special c || c = '?' || c = '#'

def splitUser (cs : List Char) : Option (List Char × List Char) :=
  (Text.splitOnce '@' cs.reverse).map (fun p => (p.2.reverse,p.1.reverse))

/-- The name before the first colon, the password behind it; an empty password is left out, and so is
the sign behind both when both are empty. -/
def userinfoText (cs : List Char) : List Char :=
  let encode := PercentSet.userinfo.encode
  let (user,password) := (Text.splitOnce ':' cs).getD (cs,[])
  let both := encode user++if password.isEmpty then [] else ':' :: encode password
  if both.isEmpty then [] else both++['@']

/-- Splits a host from its port number; a colon between brackets belongs to the host. -/
def splitPort : Bool → List Char → List Char × Option (List Char)
  | _,[] => ([],none)
  | inside,c :: cs =>
    if c = ':' && !inside then ([],some cs)
    else
      let inside := if c = '[' then true else if c = ']' then false else inside
      let (host,portNumber) := splitPort inside cs
      (c :: host,portNumber)

def portLimit : Nat := 65536

def readPort (scheme : String) (cs : List Char) : Except EndpointError (Option Nat) :=
  if cs.isEmpty then .ok none
  else match readDigits cs with
    | some n =>
      if portLimit ≤ n then .error .portNumber
      else .ok (if schemePort? scheme = some n then none else some n)
    | none => .error .portNumber

def hostOf (special : Bool) (cs : List Char) : Except EndpointError (List Char) :=
  match if special then readHost cs else readOpenHost cs with
  | .ok h => .ok h
  | .error e => .error (.host e)

structure Authority where
  userinfo : List Char
  host : List Char
  portNumber : Option Nat

def readAuthority (scheme : String) (cs : List Char) (behind : List Char) :
    Except EndpointError Authority := do
  let special := isSpecial scheme
  let (user,rest) := (splitUser cs).getD ([],cs)
  if (splitUser cs).isSome && rest.isEmpty && (!user.isEmpty || !behind.isEmpty) then
    throw (.host .empty)
  let (hostText,portText) := splitPort false rest
  let host ← hostOf special hostText
  if host.isEmpty && portText.isSome then throw (.host .empty)
  let portNumber ← readPort scheme (portText.getD [])
  pure ⟨userinfoText user,host,portNumber⟩

def isHereSegment (s : List Char) : Bool := [".","%2e"].contains (String.ofList (lowerAscii s))

def isUpSegment (s : List Char) : Bool :=
  ["..","%2e%2e","%2e.",".%2e"].contains (String.ofList (lowerAscii s))

/-- A letter and a colon or bar; nothing leads up from there. -/
def isDrive (s : List Char) : Bool :=
  match s with
  | [a,b] => a.isAlpha && (b = ':' || b = '|')
  | _ => false

def upFrom (done : List (List Char)) : List (List Char) :=
  if (done.getLast?.map isDrive).getD false then done else done.dropLast

/-- Resolves segments that lead here and up; `done` are those that a slash has ended. -/
def resolve (done : List (List Char)) : List (List Char) → List (List Char)
  | [] => done
  | [s] =>
    if isUpSegment s then upFrom done++[[]] else if isHereSegment s then done++[[]] else done++[s]
  | s :: rest =>
    if isUpSegment s then resolve (upFrom done) rest
    else if isHereSegment s then resolve done rest
    else resolve (done++[s]) rest

def pathText (cs : List Char) : String :=
  let inner := match cs with
    | c :: rest => if isSlash true c then rest else cs
    | [] => []
  let segments := (Text.splitAll (isSlash true) inner).map PercentSet.path.encode
  String.ofList ('/' :: List.intercalate ['/'] (resolve [] segments))

def splitAt (sep : Char) (cs : List Char) : List Char × Option (List Char) :=
  match Text.splitOnce sep cs with
  | some (a,b) => (a,some b)
  | none => (cs,none)

/-- A file's host may be empty, and a drive is not a host. -/
def checkFile (cs : List Char) : Except EndpointError Unit :=
  match cs with
  | a :: b :: rest =>
    let host := rest.takeWhile (fun c => !endsAuthority true c)
    if isSlash true a && isSlash true b && !host.isEmpty && !isDrive host then do
      discard (hostOf true host)
    else .ok ()
  | _ => .ok ()

/-- What stands behind the scheme of an address with a host; a scheme that reports cannot be sent by
is refused after all else. -/
def readHosted (scheme : String) (cs : List Char) : Except EndpointError Endpoint := do
  let ends := endsAuthority (isSpecial scheme)
  let rest := cs.dropWhile (fun c => !ends c)
  let a ← readAuthority scheme (cs.takeWhile (fun c => !ends c)) rest
  if scheme = "http" ∨ scheme = "https" then
    let (rest,fragment) := splitAt '#' rest
    let (rest,query) := splitAt '?' rest
    pure { scheme, userinfo := String.ofList a.userinfo, host := String.ofList a.host
           portNumber := a.portNumber, path := pathText rest
           query := query.map (fun q => String.ofList (PercentSet.query.encode q))
           fragment := fragment.map (fun f => String.ofList (PercentSet.fragment.encode f)) }
  else throw (.scheme scheme)

def ofText (s : String) : Except EndpointError Endpoint :=
  if s = "" then .error .missing
  else match splitScheme (bare s) with
    | none => .error .relative
    | some (scheme,rest) =>
      if isSpecial scheme then readHosted scheme (rest.dropWhile (isSlash true))
      else if scheme = "file" then do
        checkFile rest
        throw (.scheme scheme)
      else match Text.dropHead? ['/','/'] rest with
        | some rest => readHosted scheme rest
        | none => .error (.scheme scheme)

end Endpoint

end HostMeter.Web
