import NodeBalancer.System

/-!
# How calls and worker threads move on

Each step of a refresh or a probe is small enough that others cannot come in between: picking a
node, taking an answer, installing it, ending.  A step that takes no answer ignores the one it is
given, and only the end of a refresh looks at the time.
-/

namespace NodeBalancer

/-- What a call gives back. -/
inductive Outcome where
  | replaced (replaced : Bool)
  | honored (honored : Bool)
  | valid
  | error (error : Error)
  | fault (fault : Fault)
deriving DecidableEq

def Outcome.ofRefresh : Except Fault Bool → Outcome
  | .ok done => .replaced done
  | .error cause => .fault cause

namespace System

def filterOf (s : System) (i : Nat) : Filter :=
  ((s.agent? i).map (·.filter)).getD .none

def logQuery (s : System) (agent : Nat) (base : Endpoint) (filter : Filter) : System :=
  { s with queries := s.queries ++ [⟨agent, base, filter⟩] }

/-- One step of a refresh: what becomes of it, or how it ended. -/
def stepRefresh (s : System) (r : Refresh) (answer : Answer) (now : Instant) :
    (Refresh ⊕ Except Fault Bool) × System :=
  match r.stage with
  | .waiting =>
    match s.pick? r.agent with
    | none => (.inl (r.withStage (.settled false)), s)
    | some (base, s) => (.inl (r.withStage (.asking base)), s)
  | .asking base =>
    match answer with
    | .nodes nodes =>
      (.inl (r.withStage (.answered nodes)), s.logQuery r.agent base (s.filterOf r.agent))
    | .broken message => (.inl (r.withStage (.broken message)), s)
  | .answered nodes =>
    let (replaced, s) := s.replace r.agent nodes
    (.inl (r.withStage (.settled replaced)), s)
  | .broken message =>
    let (result, s) := s.finishRefresh r.agent now (.error (.query message))
    (.inr result, s)
  | .settled replaced =>
    let (result, s) := s.finishRefresh r.agent now (.ok replaced)
    (.inr result, s)

/-- The task that a worker thread is at or, if there is none, the one that it takes up. -/
def task? (s : System) (thread : Nat) : Option (Refresh × WorkerPool Refresh) :=
  match s.pool.running? thread with
  | some r => some (r, s.pool)
  | none => s.pool.begin? thread

/-- One step of a worker thread: it takes up a task or moves the one it is at. -/
def stepThread (s : System) (thread : Nat) (answer : Answer) (now : Instant) : System :=
  match s.task? thread with
  | none => s
  | some (r, pool) =>
    match { s with pool := pool }.stepRefresh r answer now with
    | (.inl r, s) => { s with pool := s.pool.setRunning thread r }
    | (.inr _, s) => { s with pool := s.pool.finish thread }

/-- The verdict on two answers: filters are honored if the answers differ in length. -/
def verdict (base : Endpoint) (restricted whole : List Endpoint) : Outcome :=
  if whole.isEmpty then .error (.discoveryFailure (base.text ++ " returned empty list"))
  else .honored (restricted.length != whole.length)

/-- One step of a call: what becomes of it, or what it gives back. -/
def stepCall (s : System) (call : Call) (answer : Answer) (now : Instant) :
    (Call ⊕ Outcome) × System :=
  match call with
  | .refresh r =>
    match s.stepRefresh r answer now with
    | (.inl r, s) => (.inl (.refresh r), s)
    | (.inr result, s) => (.inr (.ofRefresh result), s)
  | .comparison i kind base restricted =>
    match answer with
    | .broken message => (.inr (.fault (.query message)), s)
    | .nodes nodes =>
      match restricted with
      | none =>
        (.inl (.comparison i kind base (some nodes)), s.logQuery i base kind.unmatchable)
      | some first => (.inr (verdict base first nodes), s.logQuery i base .none)
  | .validation i base =>
    match answer with
    | .broken message => (.inr (.fault (.query message)), s)
    | .nodes nodes =>
      let filter := s.filterOf i
      let outcome :=
        if nodes.isEmpty then .error (.filterMisconfigured filter.rack filter.datacenter) else .valid
      (.inr outcome, s.logQuery i base filter)

/-- Moves the call at a position; one that has given something back is no longer under way. -/
def advanceCall (s : System) (position : Nat) (answer : Answer) (now : Instant) :
    Option Outcome × System :=
  match s.calls[position]? with
  | none => (none, s)
  | some call =>
    match s.stepCall call answer now with
    | (.inl call, s) => (none, { s with calls := s.calls.set position call })
    | (.inr outcome, s) => (some outcome, { s with calls := s.calls.eraseIdx position })

/-- The node and filter that a refresh is asking about, if it has come to that. -/
def questionOf (s : System) (r : Refresh) : Option (Endpoint × Filter) :=
  r.base?.map fun base => (base, s.filterOf r.agent)

/-- The question that a worker thread waits on. -/
def threadQuestion? (s : System) (thread : Nat) : Option (Endpoint × Filter) :=
  (s.pool.running? thread).bind s.questionOf

/-- The question that a call waits on. -/
def callQuestion? (s : System) : Call → Option (Endpoint × Filter)
  | .refresh r => s.questionOf r
  | .comparison _ kind base none => some (base, kind.unmatchable)
  | .comparison _ _ base (some _) => some (base, .none)
  | .validation i base => some (base, s.filterOf i)

end System

end NodeBalancer
