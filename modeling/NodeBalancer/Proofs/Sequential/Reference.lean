import NodeBalancer.Session.Script

/-!
# Balancers one after the other

Scripts for balancers mean something without a worker, a queue or a mark for a refresh in flight.
In this reading of them a balancer keeps a node list, a cursor and the times at which its attempts
to refresh ended, the worker pool is the number of its references, and a refresh is one step: it
picks a base, asks it, installs the answer and ends.

The clock is read as often as in a session, so that both see the same times: once for a creation and
before a forced refresh, twice by a pick, and once for each step that a refresh takes there.
-/

namespace NodeBalancer

/-- A balancer that refreshes at once or not at all. -/
structure Balancer where
  config : Config
  nodes : List Endpoint
  nodes_ne_nil : nodes ≠ []
  cursor : UInt64
  started : Bool
  /-- When attempts to refresh ended, the latest one last. -/
  attempts : List Instant

namespace Balancer

def ofConfig (config : Config) : Except Error Balancer :=
  match config.seeds with
  | .error error => .error error
  | .ok seeds =>
    if h : seeds = [] then .error .emptyNodeSet
    else .ok ⟨config, seeds, h, 0, false, []⟩

/-- The node under the cursor. -/
def current (b : Balancer) : Endpoint :=
  b.nodes.get
    ⟨b.cursor.toNat % b.nodes.length, Nat.mod_lt _ (List.length_pos_iff.mpr b.nodes_ne_nil)⟩

def advance (b : Balancer) : Balancer :=
  { b with cursor := b.cursor + 1 }

def install (b : Balancer) (nodes : List Endpoint) : Balancer :=
  if h : nodes = [] then b else { b with nodes := nodes, nodes_ne_nil := h }

def setStarted (b : Balancer) (started : Bool) : Balancer :=
  { b with started := started }

/-- An attempt to refresh ends. -/
def attempt (b : Balancer) (now : Instant) : Balancer :=
  { b with attempts := b.attempts ++ [now] }

/-- Whether there is an interval and it has elapsed since the latest attempt ended. -/
def isDue (b : Balancer) (now : Instant) : Bool :=
  !b.config.updateInterval.isZero &&
    b.attempts.getLast?.all fun ended =>
      decide (ended.nanos + b.config.updateInterval.nanos ≤ now.nanos)

/-- Every attempt ended early enough for an interval to follow it. -/
def Lasts (b : Balancer) : Prop :=
  ∀ ended ∈ b.attempts, ended.add? b.config.updateInterval ≠ none

instance (b : Balancer) : Decidable b.Lasts :=
  inferInstanceAs (Decidable (∀ ended ∈ b.attempts, ended.add? b.config.updateInterval ≠ none))

def describe (b : Balancer) : String :=
  Text.openRecord "LoadBalancer"
    [Text.field "registry" (Text.openRecord "NodeRegistry"
      [Text.field "nodes" (Text.showList (b.nodes.map Endpoint.describe)),
        Text.field "cursor" (toString b.cursor.toNat),
        Text.field "in_flight" (Text.showBool false)]),
      Text.field "coordinator" (Text.openRecord "RefreshCoordinator"
        [Text.field "filter" b.config.filter.describe,
          Text.field "update_interval" b.config.updateInterval.describe]),
      Text.field "started" (Text.showBool b.started)]

end Balancer

/-- Balancers that share a worker, of which only the references count. -/
structure Sequential where
  balancers : List Balancer
  /-- The balancer behind each name, the latest name first. -/
  names : List (String × Nat)
  refs : Nat
  cluster : Cluster
  queries : List Query
  /-- What the clock shows, reading by reading. -/
  readings : Nat → Instant
  reads : Nat

namespace Sequential

def ofReadings (readings : Nat → Instant) (cluster : Cluster) : Sequential where
  balancers := []
  names := []
  refs := 0
  cluster := cluster
  queries := []
  readings := readings
  reads := 0

def clock (q : Sequential) : Instant :=
  q.readings q.reads

/-- Reads the clock a number of times. -/
def read (q : Sequential) (times : Nat) : Sequential :=
  { q with reads := q.reads + times }

def put (q : Sequential) (i : Nat) (b : Balancer) : Sequential :=
  { q with balancers := q.balancers.set i b }

def log (q : Sequential) (i : Nat) (base : Endpoint) (filter : Filter) : Sequential :=
  { q with queries := q.queries ++ [⟨i, base, filter⟩] }

/-- Refreshes a balancer and says whether a node list was installed. -/
def refresh (q : Sequential) (i : Nat) (b : Balancer) : Bool × Sequential :=
  let nodes := q.cluster.answer b.current b.config.filter
  let q := (q.log i b.current b.config.filter).read Session.stepsPerRefresh
  (!nodes.isEmpty, q.put i ((b.advance.install nodes).attempt q.clock))

/-- Refreshes a balancer whatever the schedule. -/
def forceRefresh (q : Sequential) (i : Nat) (b : Balancer) : Bool × Sequential :=
  (q.read 1).refresh i b

/-- Picks a node for the caller.  If the balancer is started and a refresh is due, it takes place at
once where the pool has a reference, and is a vain attempt otherwise. -/
def next (q : Sequential) (i : Nat) (b : Balancer) : Endpoint × Sequential :=
  let due := b.started && b.isDue (q.read 1).clock
  let q := (q.read 2).put i b.advance
  (b.current,
    if due then
      if 0 < q.refs then (q.refresh i b.advance).2 else q.put i (b.advance.attempt q.clock)
    else q)

def start (q : Sequential) (i : Nat) (b : Balancer) : Sequential :=
  if b.started then q
  else
    let q := { q.put i (b.setStarted true) with refs := q.refs + 1 }
    if b.config.eagerDiscovery then (q.forceRefresh i (b.setStarted true)).2 else q

def stop (q : Sequential) (i : Nat) (b : Balancer) : Sequential :=
  if b.started then { q.put i (b.setStarted false) with refs := q.refs - 1 } else q

/-- Asks a node for what no node should be in and for the whole list. -/
def checkFilterHonored (q : Sequential) (i : Nat) (b : Balancer) (kind : FilterKind) :
    Outcome × Sequential :=
  (System.verdict b.current (q.cluster.answer b.current kind.unmatchable)
      (q.cluster.answer b.current .none),
    (((q.put i b.advance).log i b.current kind.unmatchable).log i b.current .none).read 2)

def validateFilter (q : Sequential) (i : Nat) (b : Balancer) : Outcome × Sequential :=
  let filter := b.config.filter
  if filter.isEmpty then (.valid, q)
  else
    (if (q.cluster.answer b.current filter).isEmpty then
        .error (.filterMisconfigured filter.rack filter.datacenter)
      else .valid,
      ((q.put i b.advance).log i b.current filter).read 1)

def picks (q : Sequential) (i : Nat) : Nat → List Endpoint × Sequential
  | 0 => ([], q)
  | times + 1 =>
    match q.balancers[i]? with
    | none => ([], q)
    | some b =>
      let (node, q) := q.next i b
      let (nodes, q) := q.picks i times
      (node :: nodes, q)

/-! ## Scripts -/

open Script

/-- A name may go, but its balancer stays, stopped. -/
def forget (q : Sequential) (name : String) : Bool × Sequential :=
  match q.names.lookup name with
  | none => (false, q)
  | some i =>
    let q := (q.balancers[i]?.map (q.stop i)).getD q
    (true, { q with names := q.names.filter (·.1 != name) })

def create (q : Sequential) (name : String) (config : Config) : Reply × Sequential :=
  match Balancer.ofConfig config with
  | .error error => (.error error, q)
  | .ok b =>
    let (_, fresh) := { q.read 1 with balancers := q.balancers ++ [b] }.forget name
    (.unit, { fresh with names := (name, q.balancers.length) :: fresh.names })

def operate (q : Sequential) (i : Nat) (b : Balancer) : Operation → Reply × Sequential
  | .start => (.unit, q.start i b)
  | .stop => (.unit, q.stop i b)
  | .next times =>
    let (nodes, q) := q.picks i times
    (.endpoints nodes, q)
  | .resolve =>
    let (node, q) := q.next i b
    (.endpoint node, q)
  | .forceRefresh =>
    let (replaced, q) := q.forceRefresh i b
    (.flag replaced, q)
  | .checkFilterHonored kind =>
    let (outcome, q) := q.checkFilterHonored i b kind
    (.ofOutcome outcome, q)
  | .validateFilter =>
    let (outcome, q) := q.validateFilter i b
    (.ofOutcome outcome, q)
  | .config => (.config b.config, q)
  | .pools => (.poolCount 0, q)
  | .describe => (.text b.describe, q)
  | _ => (.refused, q)

def performNamed (q : Sequential) (name : String) : Action → Reply × Sequential
  | .create (.balancer config) => q.create name config
  | .drop =>
    let (existed, q) := q.forget name
    (.flag existed, q)
  | .operate operation =>
    match q.names.lookup name with
    | none => (.refused, q)
    | some i =>
      match q.balancers[i]? with
      | none => (.refused, q)
      | some b => q.operate i b operation
  | _ => (.refused, q)

def perform (q : Sequential) (about : Option String) : Action → Reply × Sequential
  | .acquire => (.unit, { q with refs := q.refs + 1 })
  | .release => (.unit, { q with refs := q.refs - 1 })
  | .addMember node rack datacenter =>
    match node.endpoint with
    | .error error => (.error error, q)
    | .ok endpoint => (.unit, { q with cluster := q.cluster.add ⟨endpoint, rack, datacenter⟩ })
  | .answerFrom node answer =>
    match node.endpoint, EndpointText.endpoints answer with
    | .error error, _ => (.error error, q)
    | .ok _, .error error => (.error error, q)
    | .ok base, .ok nodes => (.unit, { q with cluster := q.cluster.answerFrom base nodes })
  | action =>
    match about with
    | none => (.refused, q)
    | some name => q.performNamed name action

def viewOf (q : Sequential) (name : String) : Option View :=
  ((q.names.lookup name).bind (q.balancers[·]?)).map fun b =>
    { nodes := b.nodes
      started := some b.started
      refreshing := false }

/-- Performs a command and reports what a session would. -/
def step (q : Sequential) (command : Command) : Report × Sequential :=
  let before := q.queries.length
  let (reply, q) := q.perform command.about command.action
  ({ reply := reply
     refs := q.refs
     running := decide (0 < q.refs)
     answered := q.queries.length
     requests := q.queries.drop before
     view := command.about.bind q.viewOf }, q)

def run (q : Sequential) : List Command → List Report
  | [] => []
  | command :: commands =>
    let (report, q) := q.step command
    report :: q.run commands

/-- What a script leaves behind. -/
def after (q : Sequential) (commands : List Command) : Sequential :=
  commands.foldl (fun q command => (q.step command).2) q

/-- Every attempt to refresh ended early enough for an interval to follow it. -/
def Lasts (q : Sequential) : Prop :=
  ∀ b ∈ q.balancers, b.Lasts

instance (q : Sequential) : Decidable q.Lasts :=
  inferInstanceAs (Decidable (∀ b ∈ q.balancers, b.Lasts))

end Sequential

/-- The commands that mean something without a worker: those for balancers, for the references to
the worker and for the cluster, as long as no query breaks off and no gate holds a worker back. -/
def Script.Action.isSequential : Script.Action → Bool
  | .breakNextQuery | .closeGate | .openGate => false
  | .create (.balancer _) => true
  | .create _ => false
  | _ => true

end NodeBalancer
