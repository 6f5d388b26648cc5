import HostMeter.Backend
import HostMeter.Message
import HostMeter.Notice
set_option autoImplicit false

/-! The pipeline hands a message from filter to filter. A filter may end the run, put another
message in the place of the current one for all filters behind it, or fail. -/

namespace HostMeter

/-- Why a filter failed: what it was doing, and the error it met. -/
inductive Cause
  | registering (name : String)
  | resolving (name : String) (e : RuntimeError)
  | opening (name : String) (e : RuntimeError)
  /-- The poll loop of a container had crashed. -/
  | stopping (name : String)
  | reporting (e : DeliveryError)
  /-- Texts of a filter's own, outermost first. -/
  | stated (outermost : String) (beneath : List String)
  deriving DecidableEq, Repr

namespace Cause

def source : Cause → String
  | .registering _ => "error registering container"
  | .resolving n _ => "error resolving container "++n
  | .opening n _ => "error opening usage channel for "++n
  | .stopping _ => "error stopping collection"
  | .reporting _ => "error performing report"
  | .stated t _ => t

def beneath : Cause → List String
  | .registering n => ["the registry cannot track container "++n]
  | .resolving _ e => e.chain
  | .opening _ e => e.chain
  | .stopping n => ["poll loop for "++n++" failed"]
  | .reporting e => e.chain
  | .stated _ ts => ts

def chain (c : Cause) : List String := c.source :: c.beneath

end Cause

structure FilterError where
  filter : String
  cause : Cause
  deriving DecidableEq, Repr

def FilterError.message (e : FilterError) : String :=
  "filter "++e.filter++" failed: "++": ".intercalate e.cause.chain

inductive Request
  | stop
  | supersede (m : Message)
  deriving DecidableEq, Repr

inductive Verdict
  | done
  | failed (c : Cause)
  | crashed
  deriving DecidableEq, Repr

/-- A filter's handling of one message: its requests in order, and how it ended. -/
structure Turn where
  requests : List Request := []
  verdict : Verdict := .done
  deriving DecidableEq, Repr

structure Context where
  stopped : Bool := false
  next : Option Message := none
  deriving DecidableEq, Repr

namespace Context

def accept (ctx : Context) : Request → Context
  | .stop => { ctx with stopped := true }
  | .supersede m => { ctx with next := some m }

def ofRequests (rs : List Request) : Context := rs.foldl accept {}

/-- An override is spent when it is taken. -/
def takeNext (ctx : Context) : Option Message × Context := (ctx.next,{ ctx with next := none })

end Context

/-- A stage of the pipeline over a state that all stages share. -/
structure Filter (σ : Type) where
  name : String
  handle : Message → σ → Turn × σ

inductive Passage
  /-- Through all filters, and what it had become by then. -/
  | through (m : Message)
  | stopped
  | failed (e : FilterError)
  | crashed
  deriving DecidableEq, Repr

namespace Pipeline

variable {σ τ : Type}

def names (fs : List (Filter σ)) : List String := fs.map (·.name)

/-- A context lives as long as the run: a stop ends it, an override is taken before the next filter. -/
def runIn [Journal σ] : Context → List (Filter σ) → Message → σ → Passage × σ
  | _,[],m,s => (.through m,s)
  | ctx,f :: fs,m,s =>
    match f.handle m s with
    | (turn,s) =>
      match turn.verdict with
      | .failed c => (.failed ⟨f.name,c⟩,s)
      | .crashed => (.crashed,s)
      | .done =>
        let ctx := turn.requests.foldl Context.accept ctx
        if ctx.stopped then (.stopped,note (.processingStopped f.name) s)
        else match ctx.takeNext with
          | (some m',ctx) => runIn ctx fs m' (note (.superseded f.name m'.kind) s)
          | (none,ctx) => runIn ctx fs m s

def run [Journal σ] (fs : List (Filter σ)) (m : Message) (s : σ) : Passage × σ := runIn {} fs m s

end Pipeline

def Filter.within {σ τ : Type} (get : τ → σ) (set : σ → τ → τ) (f : Filter σ) : Filter τ where
  name := f.name
  handle m s := ((f.handle m (get s)).1,set (f.handle m (get s)).2 s)

end HostMeter
