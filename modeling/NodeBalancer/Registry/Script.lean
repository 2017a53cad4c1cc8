import NodeBalancer.Registry

/-!
# Registry scripts

A script is a list of commands for one registry.  Times are given as distances from the moment the
registry was made.
-/

namespace NodeBalancer.RegistryScript

inductive Command where
  | next (times : Nat)
  | snapshot
  | seeds
  | replace (nodes : Except Error (List Endpoint))
  | mayBeDue (offset : Int)
  | tryBegin (offset : Int) (respectSchedule : Bool)
  | finish (offset : Int)
  | describe
  | unknown

inductive Reply where
  | unit
  | flag (value : Bool)
  | endpoints (endpoints : List Endpoint)
  | text (text : String)
  | error (error : Error)
  | refused

structure Report where
  reply : Reply
  refreshing : Bool
  nodes : List Endpoint

def picks : Nat → Registry → List Endpoint × Registry
  | 0, r => ([], r)
  | times + 1, r =>
    let (node, r) := r.next
    let (nodes, r) := picks times r
    (node :: nodes, r)

def fromEpoch (r : Registry) (offset : Int) : Instant :=
  ⟨r.epoch.nanos + offset⟩

def perform (r : Registry) : Command → Reply × Registry
  | .next times =>
    let (nodes, r) := picks times r
    (.endpoints nodes, r)
  | .snapshot => (.endpoints r.nodes, r)
  | .seeds => (.endpoints r.seeds, r)
  | .replace (.error error) => (.error error, r)
  | .replace (.ok nodes) =>
    let (replaced, r) := r.replace nodes
    (.flag replaced, r)
  | .mayBeDue offset => (.flag (r.mayBeDue (fromEpoch r offset)), r)
  | .tryBegin offset respectSchedule =>
    let (begun, r) := r.tryBegin (fromEpoch r offset) respectSchedule
    (.flag begun, r)
  | .finish offset => (.unit, r.finish (fromEpoch r offset))
  | .describe => (.text r.describe, r)
  | .unknown => (.refused, r)

def run (r : Registry) : List Command → List Report
  | [] => []
  | command :: commands =>
    let (reply, r) := perform r command
    ⟨reply, r.inFlight, r.nodes⟩ :: run r commands

end NodeBalancer.RegistryScript
