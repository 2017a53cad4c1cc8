import NodeBalancer.System.Progress

/-!
# Runs

A **run** is a list of events, oldest first.  An event is a call that somebody makes, a step of a
worker thread or a step of a call under way; which of them comes next, what the nodes answer and
what the clock shows are all left open, so a statement about every run is one about every order of
steps.

A balancer that is to be refreshed when it starts makes two events, its start and a forced refresh,
and to drop a balancer is to stop it.  What comes of a worker thread, if one has to be made, is part
of the event that asks for it.  `Event.pick` is a pick that goes past the balancer: together
with `Event.maybeSchedule` it is what `Event.next` does in one go.
-/

namespace NodeBalancer

/-- What an agent is made from. -/
inductive Design where
  | balancer (config : Config)
  | coordinator (seeds : List Endpoint) (interval : Duration) (filter : Filter)
  | probe (seeds : List Endpoint) (filter : Filter)

/-- The agent of a design, made at the given time. -/
def Design.agent (now : Instant) : Design → Except Error Agent
  | balancer config => Agent.ofConfig config now
  | coordinator seeds interval filter =>
    (Registry.ofSeeds seeds now).map fun r => ⟨r, filter, .coordinator interval⟩
  | probe seeds filter => (Registry.ofSeeds seeds now).map fun r => ⟨r, filter, .probe⟩

inductive Event where
  | create (design : Design) (now : Instant)
  | acquire (launch : Launch)
  | release
  | start (agent : Nat) (launch : Launch)
  | stop (agent : Nat)
  | next (agent : Nat) (now later : Instant)
  | pick (agent : Nat)
  | maybeSchedule (agent : Nat) (now later : Instant)
  | forceRefresh (agent : Nat) (now : Instant)
  | replace (agent : Nat) (nodes : List Endpoint)
  | beginComparison (agent : Nat) (kind : FilterKind)
  | beginValidation (agent : Nat)
  | stepThread (thread : Nat) (answer : Answer) (now : Instant)
  | advanceCall (position : Nat) (answer : Answer) (now : Instant)

/-- The refresh that a call is, if it is one. -/
def Call.refresh? : Call → Option Refresh
  | .refresh r => some r
  | _ => none

/-- How far the refreshes of an agent have come. -/
def Refresh.stagesOf (i : Nat) (rs : List Refresh) : List Stage :=
  (rs.filter (·.agent = i)).map (·.stage)

namespace System

/-- What an event does.  One that nobody can make, such as a step of a thread without work, does
nothing. -/
def step (s : System) : Event → System
  | .create design now =>
    match design.agent now with
    | .error _ => s
    | .ok a => s.addAgent a
  | .acquire launch => (s.acquire launch).2
  | .release => s.release
  | .start i launch => (s.start i launch).2
  | .stop i => s.stop i
  | .next i now later =>
    match s.next? i now later with
    | none => s
    | some (_, s) => s
  | .pick i =>
    match s.pick? i with
    | none => s
    | some (_, s) => s
  | .maybeSchedule i now later => (s.maybeSchedule i now later).2
  | .forceRefresh i now => (s.forceRefresh i now).2
  | .replace i nodes => (s.replace i nodes).2
  | .beginComparison i kind => s.beginComparison i kind
  | .beginValidation i => (s.beginValidation i).2
  | .stepThread thread answer now => s.stepThread thread answer now
  | .advanceCall position answer now => (s.advanceCall position answer now).2

def run (s : System) (events : List Event) : System :=
  events.foldl step s

/-- Every refresh that has begun and has not ended, whether a worker thread has it or a caller. -/
def refreshes (s : System) : List Refresh :=
  s.pool.tasks ++ s.calls.filterMap Call.refresh?

/-- How far the unfinished refreshes of an agent have come. -/
def stages (s : System) (i : Nat) : List Stage :=
  Refresh.stagesOf i s.refreshes

end System

end NodeBalancer
