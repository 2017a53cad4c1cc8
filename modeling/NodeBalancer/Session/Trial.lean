import NodeBalancer.Http.Server
import NodeBalancer.Session

/-!
# Trials

A trial makes one balancer from a configuration, with nothing to connect to, and tries it: a few
picks, then, where asked for, a start, the same number of picks again, and a stop.
-/

namespace NodeBalancer.Trial

/-- A discovery client and the network it works on. -/
structure World where
  client : DiscoveryClient
  server : Http.Server

def World.ask (files : Files) : Discovery World := fun w base filter =>
  let (nodes, client, server) := w.client.discover files Http.Server.request w.server base filter
  (.nodes nodes, ⟨client, server⟩)

/-- Whether the balancer is started, the references to the worker, and whether it runs. -/
structure Standing where
  started : Bool
  refs : Nat
  running : Bool

structure StartReport where
  result : Except Fault (Except Error Unit)
  started : Standing
  picks : Except Fault (List Endpoint)
  nodes : List Endpoint
  stopped : Standing

structure Report where
  nodes : List Endpoint
  picks : Except Fault (List Endpoint)
  started : Option StartReport
  poolCount : Nat

def standing (s : Session World) : Standing where
  started := (s.system.agent? 0).any Agent.isStarted
  refs := s.system.pool.refs
  running := s.system.pool.isRunning

def nodes (s : Session World) : List Endpoint :=
  ((s.system.agent? 0).map fun a => a.registry.nodes).getD []

def start (files : Files) (times : Nat) (s : Session World) : StartReport × Session World :=
  let (result, s) := s.start (World.ask files) 0 .made
  let started := standing s
  let (picks, s) := s.picks (World.ask files) 0 times
  let nodes := nodes s
  let s := (s.stop 0).settle (World.ask files)
  (⟨result, started, picks, nodes, standing s⟩, s)

def run (files : Files) (config : Config) (times : Nat) (starting : Bool) : Except Error Report :=
  let session := Session.ofWorld ⟨.ofConfig config, .absent⟩
  match Agent.ofConfig config session.clock with
  | .error error => .error error
  | .ok a =>
    let s := session.mapSystem (·.addAgent a)
    let before := nodes s
    let (picks, s) := s.picks (World.ask files) 0 times
    if starting then
      let (report, s) := start files times s
      .ok ⟨before, picks, some report, s.world.client.pools.size⟩
    else .ok ⟨before, picks, none, s.world.client.pools.size⟩

end NodeBalancer.Trial
