import NodeBalancer.Cluster
import NodeBalancer.Session

/-!
# Session scripts

A script is a list of commands for one scripted cluster, one worker pool and any number of named
objects.  A name always stands for the object created last under it.  After each command every
worker is settled, and the report says what can then be seen, also of the object that the command
names.  The machine makes every worker thread that a script needs.
-/

namespace NodeBalancer

namespace Script

/-- What may be asked of an object. -/
inductive Operation where
  | start
  | stop
  | next (times : Nat)
  | resolve
  | forceRefresh
  | maybeSchedule (times : Nat)
  | checkFilterHonored (kind : FilterKind)
  | validateFilter
  | replace (nodes : List EndpointText)
  | config
  | pools
  | filter
  | describe

/-- What is made under a new name. -/
inductive Blueprint where
  | balancer (config : Config)
  | coordinator (seeds : List EndpointText) (interval : Duration) (filter : Filter)
  | probe (seeds : List EndpointText) (filter : Filter)

inductive Action where
  | acquire
  | release
  | addMember (node : EndpointText) (rack datacenter : String)
  | answerFrom (node : EndpointText) (answer : List EndpointText)
  | breakNextQuery
  | closeGate
  | openGate
  | create (blueprint : Blueprint)
  | drop
  | operate (operation : Operation)
  | unknown

/-- An action and the name it is about.  An action on the worker pool or the cluster needs none, but
may have one. -/
structure Command where
  about : Option String
  action : Action

inductive Reply where
  | unit
  | flag (value : Bool)
  | flags (values : List Bool)
  | endpoint (endpoint : Endpoint)
  | endpoints (endpoints : List Endpoint)
  | config (config : Config)
  | poolCount (count : Nat)
  | filter (filter : Filter)
  | text (text : String)
  | error (error : Error)
  | fault (fault : Fault)
  /-- The command does not exist for what it names. -/
  | refused

def Reply.ofOutcome : Option Outcome → Reply
  | some (.replaced done) => .flag done
  | some (.honored verdict) => .flag verdict
  | some .valid => .unit
  | some (.error cause) => .error cause
  | some (.fault cause) => .fault cause
  | none => .refused

def Reply.ofTaken : Except Error Unit → Reply
  | .ok () => .unit
  | .error cause => .error cause

def Reply.ofResult {Result : Type} (reply : Result → Reply) : Except Fault Result → Reply
  | .ok result => reply result
  | .error cause => .fault cause

structure State where
  session : Session ScriptedWorld
  /-- The agent behind each name, the latest name first. -/
  names : List (String × Nat)

/-- What can be seen of a named object. -/
structure View where
  nodes : List Endpoint
  /-- Whether a balancer is started. -/
  started : Option Bool
  refreshing : Bool

structure Report where
  reply : Reply
  refs : Nat
  running : Bool
  answered : Nat
  /-- The queries answered during the command. -/
  requests : List Query
  view : Option View

namespace State

def agentOf? (s : State) (name : String) : Option Nat :=
  s.names.lookup name

def withSession (s : State) (session : Session ScriptedWorld) : State :=
  { s with session := session }

def mapCluster (s : State) (f : Cluster → Cluster) : State :=
  s.withSession
    { s.session with world := { s.session.world with cluster := f s.session.world.cluster } }

/-- A name may go, but the agent behind it stays as long as something is under way for it. -/
def forget (s : State) (name : String) : Bool × State :=
  match s.agentOf? name with
  | none => (false, s)
  | some i =>
    (true, { session := s.session.stop i, names := s.names.filter (·.1 != name) })

/-- The agent for a blueprint; its registry is made at the given time. -/
def agent (now : Instant) : Blueprint → Except Error Agent
  | .balancer config => Agent.ofConfig config now
  | .coordinator seeds interval filter =>
    match EndpointText.endpoints seeds with
    | .error error => .error error
    | .ok seeds => (Registry.ofSeeds seeds now).map fun r => ⟨r, filter, .coordinator interval⟩
  | .probe seeds filter =>
    match EndpointText.endpoints seeds with
    | .error error => .error error
    | .ok seeds => (Registry.ofSeeds seeds now).map fun r => ⟨r, filter, .probe⟩

/-- Creates an object.  Only once it has been made does it take the place of another of its name. -/
def create (s : State) (name : String) (blueprint : Blueprint) : Reply × State :=
  let session := s.session.tick
  match agent session.clock blueprint with
  | .error error => (.error error, s)
  | .ok a =>
    let i := session.system.agents.length
    let (_, s) := (s.withSession (session.mapSystem (·.addAgent a))).forget name
    (.unit, { s with names := (name, i) :: s.names })

def pick (s : State) (i times : Nat) : Reply × State :=
  let (nodes, session) := s.session.picks ScriptedWorld.ask i times
  (.ofResult .endpoints nodes, s.withSession session)

def resolve (s : State) (i : Nat) : Reply × State :=
  match s.session.next i with
  | (.ok none, session) => (.refused, s.withSession session)
  | (.ok (some node), session) => (.endpoint node, s.withSession session)
  | (.error fault, session) => (.fault fault, s.withSession session)

def forceRefresh (s : State) (i : Nat) : Reply × State :=
  let (replaced, session) := s.session.forceRefresh ScriptedWorld.ask i
  (.ofResult .flag replaced, s.withSession session)

def maybeSchedule (s : State) (i times : Nat) : Reply × State :=
  let (queued, session) := s.session.schedules ScriptedWorld.ask i times
  (.ofResult .flags queued, s.withSession session)

def checkFilterHonored (s : State) (i : Nat) (kind : FilterKind) : Reply × State :=
  let (outcome, session) := s.session.checkFilterHonored ScriptedWorld.ask i kind
  (.ofOutcome outcome, s.withSession session)

def validateFilter (s : State) (i : Nat) : Reply × State :=
  let (outcome, session) := s.session.validateFilter ScriptedWorld.ask i
  (.ofOutcome outcome, s.withSession session)

def replaceNodes (s : State) (i : Nat) (nodes : List EndpointText) : Reply × State :=
  match EndpointText.endpoints nodes with
  | .error error => (.error error, s)
  | .ok nodes =>
    let (replaced, system) := s.session.system.replace i nodes
    (.flag replaced, s.withSession { s.session with system := system })

def operateBalancer (s : State) (i : Nat) (a : Agent) (config : Config) :
    Operation → Reply × State
  | .start =>
    let (result, session) := s.session.start ScriptedWorld.ask i .made
    (.ofResult .ofTaken result, s.withSession session)
  | .stop => (.unit, s.withSession (s.session.stop i))
  | .next times => s.pick i times
  | .resolve => s.resolve i
  | .forceRefresh => s.forceRefresh i
  | .checkFilterHonored kind => s.checkFilterHonored i kind
  | .validateFilter => s.validateFilter i
  | .config => (.config config, s)
  | .pools => (.poolCount 0, s)
  | .describe => (.text a.describe, s)
  | _ => (.refused, s)

def operateCoordinator (s : State) (i : Nat) (a : Agent) : Operation → Reply × State
  | .maybeSchedule times => s.maybeSchedule i times
  | .forceRefresh => s.forceRefresh i
  | .filter => (.filter a.filter, s)
  | .describe => (.text a.describe, s)
  | .next times => s.pick i times
  | .replace nodes => s.replaceNodes i nodes
  | _ => (.refused, s)

def operateProbe (s : State) (i : Nat) (a : Agent) : Operation → Reply × State
  | .checkFilterHonored kind => s.checkFilterHonored i kind
  | .validateFilter => s.validateFilter i
  | .describe => (.text a.describe, s)
  | .next times => s.pick i times
  | .replace nodes => s.replaceNodes i nodes
  | _ => (.refused, s)

def operate (s : State) (name : String) (operation : Operation) : Reply × State :=
  match s.agentOf? name with
  | none => (.refused, s)
  | some i =>
    match s.session.system.agent? i with
    | none => (.refused, s)
    | some a =>
      match a.role with
      | .balancer config _ => s.operateBalancer i a config operation
      | .coordinator _ => s.operateCoordinator i a operation
      | .probe => s.operateProbe i a operation

/-- Does what is asked for under a name. -/
def performNamed (s : State) (name : String) : Action → Reply × State
  | .create blueprint => s.create name blueprint
  | .drop =>
    let (existed, s) := s.forget name
    (.flag existed, s)
  | .operate operation => s.operate name operation
  | _ => (.refused, s)

def perform (s : State) (about : Option String) : Action → Reply × State
  | .acquire =>
    let (taken, session) := s.session.acquire .made
    (.ofTaken taken, s.withSession session)
  | .release => (.unit, s.withSession (s.session.mapSystem (·.release)))
  | .addMember node rack datacenter =>
    match node.endpoint with
    | .error error => (.error error, s)
    | .ok endpoint => (.unit, s.mapCluster (·.add ⟨endpoint, rack, datacenter⟩))
  | .answerFrom node answer =>
    match node.endpoint, EndpointText.endpoints answer with
    | .error error, _ => (.error error, s)
    | .ok _, .error error => (.error error, s)
    | .ok base, .ok nodes => (.unit, s.mapCluster (·.answerFrom base nodes))
  | .breakNextQuery =>
    (.unit, s.withSession
      { s.session with world := { s.session.world with breaksNext := true } })
  | .closeGate => (.unit, s.withSession s.session.closeGate)
  | .openGate => (.unit, s.withSession (s.session.openGate ScriptedWorld.ask))
  | action =>
    match about with
    | none => (.refused, s)
    | some name => s.performNamed name action

def viewOf (s : State) (name : String) : Option View :=
  ((s.agentOf? name).bind s.session.system.agent?).map fun a =>
    { nodes := a.registry.nodes
      started := if a.isBalancer then some a.isStarted else none
      refreshing := a.registry.inFlight }

end State

/-- Performs a command, lets the workers settle, and reports. -/
def State.step (s : State) (command : Command) : Report × State :=
  let before := s.session.system.queries.length
  let (reply, s) := s.perform command.about command.action
  let s := s.withSession (s.session.settle ScriptedWorld.ask)
  let system := s.session.system
  ({ reply := reply
     refs := system.pool.refs
     running := system.pool.isRunning
     answered := system.queries.length
     requests := system.queries.drop before
     view := command.about.bind s.viewOf }, s)

def State.run (s : State) : List Command → List Report
  | [] => []
  | command :: commands =>
    let (report, s) := s.step command
    report :: s.run commands

def State.ofReadings (readings : Nat → Instant) (cluster : Cluster) : State :=
  ⟨Session.ofReadings readings ⟨cluster, false⟩, []⟩

def State.ofCluster (cluster : Cluster) : State :=
  .ofReadings Session.steadyReadings cluster

end Script

end NodeBalancer
