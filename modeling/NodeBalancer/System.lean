import NodeBalancer.Refresh
import NodeBalancer.WorkerPool

/-!
# Agents around one worker

A system has any number of balancers, coordinators and probes, each with a registry of its own, and
one worker pool that all of them hand their scheduled refreshes to.  Calls that wait for an answer
are part of the state while they are under way, on the thread of whoever made them.

This module holds the state and what callers do to it at once; `NodeBalancer.System.Progress` says
how the calls under way and the worker threads move on.  Where the time matters it is an argument,
so the state needs no clock.

A start marks its balancer and takes a reference in one step, and a stop is one step, too: no other
call comes between the mark and the reference.
-/

namespace NodeBalancer

/-- A query that was answered. -/
structure Query where
  agent : Nat
  base : Endpoint
  filter : Filter
deriving DecidableEq

/-- A call that waits for an answer. -/
inductive Call where
  | refresh (refresh : Refresh)
  /-- The comparison of an answer that no node should be in with the whole list; the first answer is
  there once it has come. -/
  | comparison (agent : Nat) (kind : FilterKind) (base : Endpoint)
      (restricted : Option (List Endpoint))
  | validation (agent : Nat) (base : Endpoint)
deriving DecidableEq

structure System where
  agents : List Agent
  pool : WorkerPool Refresh
  calls : List Call
  queries : List Query

namespace System

def empty : System := ⟨[], .empty, [], []⟩

def agent? (s : System) (i : Nat) : Option Agent :=
  s.agents[i]?

def modifyAgent (s : System) (i : Nat) (f : Agent → Agent) : System :=
  { s with agents := s.agents.modify i f }

/-- Adds an agent; it is known by the number of agents before it. -/
def addAgent (s : System) (a : Agent) : System :=
  { s with agents := s.agents ++ [a] }

def acquire (s : System) (launch : Launch) : Except Error Unit × System :=
  let (taken, pool) := s.pool.acquire launch
  (taken, { s with pool := pool })

def release (s : System) : System :=
  { s with pool := s.pool.release }

/-- Starts a balancer and says whether it was not started before.  Without a reference to the worker
it is not started after all. -/
def start (s : System) (i : Nat) (launch : Launch) : Except Error Bool × System :=
  match s.agent? i with
  | none => (.ok false, s)
  | some a =>
    if a.isBalancer && !a.isStarted then
      match (s.modifyAgent i (·.setStarted true)).acquire launch with
      | (.ok (), s) => (.ok true, s)
      | (.error error, s) => (.error error, s.modifyAgent i (·.setStarted false))
    else (.ok false, s)

/-- Stops a balancer, which gives up its reference to the worker if it was started. -/
def stop (s : System) (i : Nat) : System :=
  match s.agent? i with
  | none => s
  | some a => if a.isStarted then (s.modifyAgent i (·.setStarted false)).release else s

def replace (s : System) (i : Nat) (nodes : List Endpoint) : Bool × System :=
  (!nodes.isEmpty, s.modifyAgent i (·.install nodes))

/-- Ends the refresh that an agent has in flight.  Where the update interval has no end the flight
does not end either, and what was to be returned is lost.  If the refresh is being torn down at that
moment anyway, because its query broke off, a program would not survive this second fault; here the
call ends in the first one and everything else goes on. -/
def finishRefresh (s : System) (i : Nat) (now : Instant) (result : Except Fault Bool) :
    Except Fault Bool × System :=
  match (s.agent? i).bind (·.finish? now) with
  | some a => (result, s.modifyAgent i fun _ => a)
  | none =>
    match result with
    | .ok _ => (.error .instantOverflow, s)
    | .error fault => (.error fault, s)

/-- Marks a refresh of an agent as in flight and says whether it did. -/
def beginRefresh (s : System) (i : Nat) (now : Instant) (respectSchedule : Bool) : Bool × System :=
  match s.agent? i with
  | none => (false, s)
  | some a =>
    let (begun, registry) := a.registry.tryBegin now respectSchedule
    (begun, s.modifyAgent i fun a => { a with registry := registry })

/-- Whether a call to schedule a refresh goes past the check that needs no lock. -/
def mayBeDue (s : System) (i : Nat) (now : Instant) : Bool :=
  match s.agent? i with
  | none => false
  | some a => !a.interval.isZero && a.registry.mayBeDue now

/-- Hands a refresh to the worker if one is due, and says whether the worker took it.  One that it
does not take ends right away, at the second of the two times. -/
def maybeSchedule (s : System) (i : Nat) (now later : Instant) : Except Fault Bool × System :=
  if s.mayBeDue i now then
    let (begun, s) := s.beginRefresh i now true
    if begun then
      let (queued, pool) := s.pool.submit (.ofAgent i)
      if queued then (.ok true, { s with pool := pool })
      else s.finishRefresh i later (.ok false)
    else (.ok false, s)
  else (.ok false, s)

/-- Picks a node of an agent. -/
def pick? (s : System) (i : Nat) : Option (Endpoint × System) :=
  (s.agent? i).map fun a => (a.registry.current, s.modifyAgent i (·.advance))

/-- Picks a node; a started balancer then looks at its schedule. -/
def next? (s : System) (i : Nat) (now later : Instant) : Option (Except Fault Endpoint × System) :=
  match s.agent? i with
  | none => none
  | some a =>
    let node := a.registry.current
    let s := s.modifyAgent i (·.advance)
    if a.isStarted then
      let (scheduled, s) := s.maybeSchedule i now later
      some (scheduled.map fun _ => node, s)
    else some (.ok node, s)

def addCall (s : System) (call : Call) : System :=
  { s with calls := s.calls ++ [call] }

/-- Begins a refresh on the caller's thread, whatever the schedule, and says whether it did: it does
not while another one is in flight. -/
def forceRefresh (s : System) (i : Nat) (now : Instant) : Bool × System :=
  let (begun, s) := s.beginRefresh i now false
  if begun then (true, s.addCall (.refresh (.ofAgent i))) else (false, s)

/-- Begins the comparison that tells whether filters of a kind are honored. -/
def beginComparison (s : System) (i : Nat) (kind : FilterKind) : System :=
  match s.pick? i with
  | none => s
  | some (base, s) => s.addCall (.comparison i kind base none)

/-- Begins the validation of an agent's filter and says whether there is anything to validate. -/
def beginValidation (s : System) (i : Nat) : Bool × System :=
  match s.agent? i with
  | none => (false, s)
  | some a =>
    if a.filter.isEmpty then (false, s)
    else (true, (s.modifyAgent i (·.advance)).addCall (.validation i a.registry.current))

end System

end NodeBalancer
