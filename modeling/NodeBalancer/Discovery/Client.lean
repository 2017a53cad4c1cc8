import NodeBalancer.ConnectionPool
import NodeBalancer.Discovery.Locator.Parser
import NodeBalancer.Discovery.NodeList
import NodeBalancer.Http.Response

/-!
# Discovery over HTTP

The client asks a base node for the node list.  Redirects are followed up to a limit; only a success
with a whole body that is a node list counts, and every failure on the way is a failure of the
query.
-/

namespace NodeBalancer

/-- How requests are sent over a network.  Redirects may lead to places that no locator names, so
the targets of requests are of a type of their own. -/
structure Transport (Network Target : Type) where
  ofLocator : Locator → Target
  /-- Where the location in a response leads from the target that was asked, if anywhere. -/
  resolve? : Target → String → Option Target
  send : Network → Target → Http.Exchange × Network

def maxRedirects : Nat := 10

/-- The body of the response at the end of a chain of at most `redirects` redirects. -/
def Transport.fetch {Network Target : Type} (transport : Transport Network Target) :
    Nat → Network → Target → Option ByteArray × Network
  | redirects, network, target =>
    match transport.send network target with
    | (.failure, network) => (none, network)
    | (.response response, network) =>
      if response.isSuccess then (response.body, network)
      else if response.isRedirect then
        match redirects, response.location.bind (transport.resolve? target) with
        | redirects + 1, some target => transport.fetch redirects network target
        | _, _ => (none, network)
      else (none, network)

structure DiscoveryClient where
  pools : ConnectionPools
  scheme : Scheme
  port : UInt16

namespace DiscoveryClient

def ofConfig (c : Config) : DiscoveryClient :=
  ⟨.ofConfig c, c.scheme, c.port⟩

variable {Network Target : Type}

/-- The nodes that a base node lists, or `none` if the query failed. -/
def query (files : Files) (transport : Transport Network Target) (c : DiscoveryClient)
    (network : Network) (base : Endpoint) (f : Filter) :
    Option (List Endpoint) × DiscoveryClient × Network :=
  match Locator.localNodes? base f with
  | none => (none, c, network)
  | some locator =>
    match c.pools.poolFor files base with
    | (.error _, pools) => (none, { c with pools := pools }, network)
    | (.ok _, pools) =>
      let (body, network) :=
        transport.fetch maxRedirects network (transport.ofLocator locator)
      (body.bind (NodeList.ofBody? c.scheme c.port.toNat), { c with pools := pools }, network)

/-- A failed query lists no nodes. -/
def discover (files : Files) (transport : Transport Network Target) (c : DiscoveryClient)
    (network : Network) (base : Endpoint) (f : Filter) :
    List Endpoint × DiscoveryClient × Network :=
  let (nodes, c, network) := c.query files transport network base f
  (nodes.getD [], c, network)

end DiscoveryClient

end NodeBalancer
