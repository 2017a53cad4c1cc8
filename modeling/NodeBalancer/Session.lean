import NodeBalancer.System.Progress

/-!
# Sessions

A session drives a system with one caller.  A call runs to its end as soon as it is made, and after
it every worker thread runs until it has nothing left to do.  A closed gate can hold threads back: a
thread that comes to a question while the gate is closed waits there, and the tasks behind it wait
too.

The world that questions go to is a parameter, and so is what the clock shows each time it is read.
-/

namespace NodeBalancer

/-- A world is asked a base node for the nodes that pass a filter. -/
abbrev Discovery (World : Type) := World → Endpoint → Filter → Answer × World

structure Session (World : Type) where
  system : System
  world : World
  gateClosed : Bool
  /-- Threads that wait at the gate, in the order they came. -/
  held : List Nat
  /-- What the clock shows, reading by reading. -/
  readings : Nat → Instant
  /-- The number of the latest reading. -/
  reads : Nat

namespace Session

variable {World : Type}

def ofReadings (readings : Nat → Instant) (world : World) : Session World where
  system := .empty
  world := world
  gateClosed := false
  held := []
  readings := readings
  reads := 0

/-- A clock that moves on by one nanosecond whenever it is read, beginning an hour after its
zero. -/
def steadyReadings (n : Nat) : Instant :=
  Instant.after ⟨3600 * 1000000000⟩ ⟨n⟩

def ofWorld (world : World) : Session World :=
  .ofReadings steadyReadings world

/-- What the clock showed last. -/
def clock (s : Session World) : Instant :=
  s.readings s.reads

/-- Reads the clock. -/
def tick (s : Session World) : Session World :=
  { s with reads := s.reads + 1 }

/-- The answer to a question; where there is none to ask, an answer that nobody looks at. -/
def ask (discovery : Discovery World) (s : Session World) :
    Option (Endpoint × Filter) → Answer × Session World
  | none => (.nodes [], s)
  | some (base, filter) =>
    let (answer, world) := discovery s.world base filter
    (answer, { s with world := world })

/-- A bound on the number of steps that a refresh takes from waiting to its end. -/
def stepsPerRefresh : Nat := 4

/-- Runs one worker thread until it is idle or held at the gate, for at most `fuel` steps. -/
def runThread (discovery : Discovery World) (thread : Nat) :
    Nat → Session World → Session World
  | 0, s => s
  | fuel + 1, s =>
    match s.system.pool.thread? thread with
    | none => s
    | some t =>
      if t.isIdle || s.held.contains thread then s
      else
        let question := s.system.threadQuestion? thread
        if question.isSome && s.gateClosed then { s with held := s.held ++ [thread] }
        else
          let (answer, s) := (s.tick).ask discovery question
          runThread discovery thread fuel
            { s with system := s.system.stepThread thread answer s.clock }

/-- Enough steps for every task of the pool. -/
def settleFuel (s : Session World) : Nat :=
  stepsPerRefresh * s.system.pool.tasks.length + 1

/-- Lets every worker thread run until it is idle or held. -/
def settle (discovery : Discovery World) (s : Session World) : Session World :=
  (List.range s.system.pool.threads.length).foldl
    (fun s thread => s.runThread discovery thread s.settleFuel) s

/-- Runs the call under way to its end, for at most `fuel` steps. -/
def runCall (discovery : Discovery World) :
    Nat → Session World → Option Outcome × Session World
  | 0, s => (none, s)
  | fuel + 1, s =>
    match s.system.calls[0]? with
    | none => (none, s)
    | some call =>
      let (answer, s) := (s.tick).ask discovery (s.system.callQuestion? call)
      match s.system.advanceCall 0 answer s.clock with
      | (some outcome, system) => (some outcome, { s with system := system })
      | (none, system) => runCall discovery fuel { s with system := system }

def mapSystem (s : Session World) (f : System → System) : Session World :=
  { s with system := f s.system }

def closeGate (s : Session World) : Session World :=
  { s with gateClosed := true }

/-- Opens the gate and lets the held threads go one after the other, each until it is idle. -/
def openGate (discovery : Discovery World) (s : Session World) : Session World :=
  s.held.foldl
    (fun s thread =>
      let s := { s with held := s.held.erase thread }
      s.runThread discovery thread s.settleFuel)
    { s with gateClosed := false }

/-- A refresh forced by the caller.  It is refused while another one is in flight. -/
def forceRefresh (discovery : Discovery World) (s : Session World) (i : Nat) :
    Except Fault Bool × Session World :=
  let s := s.tick
  let (begun, system) := s.system.forceRefresh i s.clock
  let s := { s with system := system }
  if begun then
    match s.runCall discovery stepsPerRefresh with
    | (some (.replaced replaced), s) => (.ok replaced, s)
    | (some (.fault fault), s) => (.error fault, s)
    | (_, s) => (.ok false, s)
  else (.ok false, s)

/-- Takes a reference to the worker. -/
def acquire (s : Session World) (launch : Launch) : Except Error Unit × Session World :=
  let (taken, system) := s.system.acquire launch
  (taken, { s with system := system })

/-- Starts a balancer, which fails where the worker gives no reference.  An eager one is refreshed
at once; whether that installs anything is not told. -/
def start (discovery : Discovery World) (s : Session World) (i : Nat) (launch : Launch) :
    Except Fault (Except Error Unit) × Session World :=
  match s.system.start i launch with
  | (.error error, system) => (.ok (.error error), { s with system := system })
  | (.ok fresh, system) =>
    let s := { s with system := system }
    if fresh && (s.system.agent? i).any Agent.isEager then
      let (result, s) := s.forceRefresh discovery i
      (result.map fun _ => .ok (), s)
    else (.ok (.ok ()), s)

def stop (s : Session World) (i : Nat) : Session World :=
  s.mapSystem (·.stop i)

/-- Picks a node for the caller, if the agent is there to pick one.  The clock is read twice: a
refresh that no worker takes ends later than it began. -/
def next (s : Session World) (i : Nat) : Except Fault (Option Endpoint) × Session World :=
  match s.system.next? i s.tick.clock s.tick.tick.clock with
  | none => (.ok none, s.tick.tick)
  | some (node, system) => (node.map some, { s.tick.tick with system := system })

def maybeSchedule (s : Session World) (i : Nat) : Except Fault Bool × Session World :=
  let (scheduled, system) := s.system.maybeSchedule i s.tick.clock s.tick.tick.clock
  (scheduled, { s.tick.tick with system := system })

/-- Asks whether filters of a kind are honored. -/
def checkFilterHonored (discovery : Discovery World) (s : Session World) (i : Nat)
    (kind : FilterKind) : Option Outcome × Session World :=
  (s.mapSystem (·.beginComparison i kind)).runCall discovery 2

/-- Asks whether the agent's own filter lets anything through. -/
def validateFilter (discovery : Discovery World) (s : Session World) (i : Nat) :
    Option Outcome × Session World :=
  let (begun, system) := s.system.beginValidation i
  let s := { s with system := system }
  if begun then s.runCall discovery 1 else (some .valid, s)

/-- Repeats something that may be torn down, with the workers settling after each time; the first
fault ends it. -/
def repeatSettled {Result : Type} (discovery : Discovery World) (s : Session World)
    (once : Session World → Except Fault Result × Session World) :
    Nat → Except Fault (List Result) × Session World
  | 0 => (.ok [], s)
  | times + 1 =>
    match once s with
    | (.error fault, s) => (.error fault, s)
    | (.ok result, s) =>
      match (s.settle discovery).repeatSettled discovery once times with
      | (.error fault, s) => (.error fault, s)
      | (.ok results, s) => (.ok (result :: results), s)

/-- Picks several nodes, with the workers settling after each. -/
def picks (discovery : Discovery World) (s : Session World) (i times : Nat) :
    Except Fault (List Endpoint) × Session World :=
  let (nodes, s) := s.repeatSettled discovery (·.next i) times
  (nodes.map (·.filterMap id), s)

/-- Asks several times whether a refresh is due, with the workers settling after each. -/
def schedules (discovery : Discovery World) (s : Session World) (i times : Nat) :
    Except Fault (List Bool) × Session World :=
  s.repeatSettled discovery (·.maybeSchedule i) times

end Session

end NodeBalancer
