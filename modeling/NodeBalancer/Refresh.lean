import NodeBalancer.Config
import NodeBalancer.Registry

/-!
# Refreshes

A refresh picks a node, asks it for the node list, installs the answer unless it is empty, and ends.
Between these steps others may act, so a refresh that has begun is a value of its own: whose it is
and how far it has come.
-/

namespace NodeBalancer

/-- What an agent does besides keeping a registry. -/
inductive Role where
  | balancer (config : Config) (started : Bool)
  | coordinator (interval : Duration)
  | probe
deriving DecidableEq

/-- A registry with what is needed to refresh it. -/
structure Agent where
  registry : Registry
  filter : Filter
  role : Role

namespace Agent

/-- A balancer over the nodes of a configuration, made at the given time and not started. -/
def ofConfig (config : Config) (now : Instant) : Except Error Agent :=
  match config.seeds with
  | .error error => .error error
  | .ok seeds =>
    (Registry.ofSeeds seeds now).map fun r => ⟨r, config.filter, .balancer config false⟩

def interval (a : Agent) : Duration :=
  match a.role with
  | .balancer config _ => config.updateInterval
  | .coordinator interval => interval
  | .probe => .zero

def isStarted (a : Agent) : Bool :=
  match a.role with
  | .balancer _ started => started
  | _ => false

/-- Only a balancer can be started. -/
def setStarted (a : Agent) (started : Bool) : Agent :=
  match a.role with
  | .balancer config _ => { a with role := .balancer config started }
  | _ => a

def isBalancer (a : Agent) : Bool :=
  match a.role with
  | .balancer _ _ => true
  | _ => false

/-- Whether starting the agent refreshes it at once. -/
def isEager (a : Agent) : Bool :=
  match a.role with
  | .balancer config _ => config.eagerDiscovery
  | _ => false

def advance (a : Agent) : Agent :=
  { a with registry := a.registry.advance }

def install (a : Agent) (nodes : List Endpoint) : Agent :=
  { a with registry := (a.registry.replace nodes).2 }

/-- Ends the refresh in flight at the given time, if the update interval then has an end. -/
def finish? (a : Agent) (now : Instant) : Option Agent :=
  (now.add? a.interval).map fun eligible => { a with registry := a.registry.finish eligible }

def describeCoordinator (a : Agent) : String :=
  Text.openRecord "RefreshCoordinator"
    [Text.field "filter" a.filter.describe,
      Text.field "update_interval" a.interval.describe]

def describe (a : Agent) : String :=
  match a.role with
  | .balancer _ started =>
    Text.openRecord "LoadBalancer"
      [Text.field "registry" a.registry.describe,
        Text.field "coordinator" a.describeCoordinator,
        Text.field "started" (Text.showBool started)]
  | .coordinator _ => a.describeCoordinator
  | .probe => Text.openRecord "FeatureProbe" [Text.field "filter" a.filter.describe]

end Agent

/-- What a node says when it is asked for the node list: a list, or nothing, because the query
itself was torn down. -/
inductive Answer where
  | nodes (nodes : List Endpoint)
  | broken (message : String)
deriving DecidableEq

/-- How far a refresh has come. -/
inductive Stage where
  | waiting
  | asking (base : Endpoint)
  | answered (nodes : List Endpoint)
  | broken (message : String)
  | settled (replaced : Bool)
deriving DecidableEq

structure Refresh where
  agent : Nat
  stage : Stage
deriving DecidableEq

namespace Refresh

def ofAgent (agent : Nat) : Refresh := ⟨agent, .waiting⟩

def withStage (r : Refresh) (stage : Stage) : Refresh :=
  { r with stage := stage }

/-- The node that the refresh is waiting for, if it is waiting for one. -/
def base? (r : Refresh) : Option Endpoint :=
  match r.stage with
  | .asking base => some base
  | _ => none

end Refresh

end NodeBalancer
