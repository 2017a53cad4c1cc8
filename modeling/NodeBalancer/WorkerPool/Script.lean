import NodeBalancer.WorkerPool

/-!
# Worker scripts

A script takes references to a worker pool, gives them back, and submits named tasks that write down
when they begin and end.  After each command every thread runs until it is idle or held at the gate.
The machine makes every thread that a script needs.
-/

namespace NodeBalancer.WorkerScript

inductive TaskKind where
  | plain
  /-- Writes down the name of its thread. -/
  | thread
  /-- Waits while the gate is closed. -/
  | gate
  /-- Breaks off and never ends. -/
  | breaking
deriving DecidableEq

structure NamedTask where
  name : String
  kind : TaskKind
deriving DecidableEq

inductive Command where
  | acquire
  | release
  | submit (task : NamedTask)
  | describe
  | closeGate
  | openGate
  | unknown

inductive Reply where
  | unit
  | flag (value : Bool)
  | text (text : String)
  | refused

structure Report where
  reply : Reply
  refs : Nat
  running : Bool
  events : List String

structure State where
  pool : WorkerPool NamedTask
  gateClosed : Bool
  /-- Threads that wait at the gate, in the order they came. -/
  held : List Nat
  events : List String

namespace State

def empty : State := ⟨.empty, false, [], []⟩

def log (s : State) (event : String) : State :=
  { s with events := s.events ++ [event] }

def finish (s : State) (thread : Nat) : State :=
  { s with pool := s.pool.finish thread }

/-- One step of a thread: it takes up a task, or carries on with the one it is at. -/
def stepThread (s : State) (thread : Nat) : State :=
  match s.pool.running? thread with
  | none =>
    match s.pool.begin? thread with
    | none => s
    | some (task, pool) => { s with pool := pool }.log ("begin " ++ task.name)
  | some task =>
    let ended := s.log ("end " ++ task.name)
    match task.kind with
    | .plain => ended.finish thread
    | .thread => ((s.log WorkerPool.threadName).log ("end " ++ task.name)).finish thread
    | .gate =>
      if s.gateClosed then { s with held := s.held ++ [thread] } else ended.finish thread
    | .breaking => s.finish thread

/-- Runs one thread until it is idle or held, for at most `fuel` steps. -/
def runThread (thread : Nat) : Nat → State → State
  | 0, s => s
  | fuel + 1, s =>
    match s.pool.thread? thread with
    | none => s
    | some t =>
      if t.isIdle || s.held.contains thread then s
      else runThread thread fuel (s.stepThread thread)

/-- Enough steps to begin and end every task of the pool. -/
def settleFuel (s : State) : Nat :=
  2 * s.pool.tasks.length + 1

def settle (s : State) : State :=
  (List.range s.pool.threads.length).foldl (fun s thread => s.runThread thread s.settleFuel) s

/-- Opens the gate and lets the held threads go one after the other, each until it is idle. -/
def openGate (s : State) : State :=
  s.held.foldl
    (fun s thread =>
      let s := { s with held := s.held.erase thread }
      s.runThread thread s.settleFuel)
    { s with gateClosed := false }

def perform (s : State) : Command → Reply × State
  | .acquire => (.unit, { s with pool := (s.pool.acquire .made).2 })
  | .release => (.unit, { s with pool := s.pool.release })
  | .submit task =>
    let (accepted, pool) := s.pool.submit task
    if accepted then (.flag true, { s with pool := pool })
    else (.flag false, s.log ("dropped " ++ task.name))
  | .describe => (.text s.pool.describe, s)
  | .closeGate => (.unit, { s with gateClosed := true })
  | .openGate => (.unit, s.openGate)
  | .unknown => (.refused, s)

/-- Performs a command, lets the threads settle, and reports what was written down meanwhile. -/
def step (s : State) (command : Command) : Report × State :=
  let (reply, s) := { s with events := [] }.perform command
  let s := s.settle
  (⟨reply, s.pool.refs, s.pool.isRunning, s.events⟩, s)

def run (s : State) : List Command → List Report
  | [] => []
  | command :: commands =>
    let (report, s) := s.step command
    report :: s.run commands

end State

end NodeBalancer.WorkerScript
