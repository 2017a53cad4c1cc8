import NodeBalancer.Endpoint
import NodeBalancer.Filter
import NodeBalancer.Time

/-!
# Configurations

A configuration names the first nodes and says how they are reached and how often the node list is
refreshed.  Everything but the nodes has a default.
-/

namespace NodeBalancer

/-- Where the client certificate and its key are kept. -/
structure ClientIdentity where
  certificate : String
  key : String
deriving DecidableEq

structure Config where
  nodes : List String
  scheme : Scheme
  port : UInt16
  datacenter : Option String
  rack : Option String
  updateInterval : Duration
  connectTimeout : Duration
  requestTimeout : Duration
  maxPoolConnections : Nat
  clientIdentity : Option ClientIdentity
  ignoreServerCertificateError : Bool
  eagerDiscovery : Bool
deriving DecidableEq

namespace Config

def ofNodes (nodes : List String) : Config where
  nodes := nodes
  scheme := .http
  port := 8080
  datacenter := none
  rack := none
  updateInterval := .ofSeconds 10
  connectTimeout := .ofSeconds 5
  requestTimeout := .ofSeconds 5
  maxPoolConnections := 100
  clientIdentity := none
  ignoreServerCertificateError := false
  eagerDiscovery := false

def filter (c : Config) : Filter :=
  ⟨c.rack, c.datacenter⟩

def hasFilter (c : Config) : Bool :=
  c.rack.isSome || c.datacenter.isSome

/-- A change of one setting. -/
inductive Setting where
  | scheme (scheme : Scheme)
  | port (port : UInt16)
  | datacenter (name : String)
  | rack (name : String)
  | updateInterval (interval : Duration)
  | connectTimeout (timeout : Duration)
  | requestTimeout (timeout : Duration)
  | maxPoolConnections (count : Nat)
  | clientIdentity (identity : ClientIdentity)
  | ignoreServerCertificateError (ignore : Bool)
  | eagerDiscovery (eager : Bool)
deriving DecidableEq

def set (c : Config) : Setting → Config
  | .scheme scheme => { c with scheme := scheme }
  | .port port => { c with port := port }
  | .datacenter name => { c with datacenter := some name }
  | .rack name => { c with rack := some name }
  | .updateInterval interval => { c with updateInterval := interval }
  | .connectTimeout timeout => { c with connectTimeout := timeout }
  | .requestTimeout timeout => { c with requestTimeout := timeout }
  | .maxPoolConnections count => { c with maxPoolConnections := count }
  | .clientIdentity identity => { c with clientIdentity := some identity }
  | .ignoreServerCertificateError ignore => { c with ignoreServerCertificateError := ignore }
  | .eagerDiscovery eager => { c with eagerDiscovery := eager }

def setAll (c : Config) (settings : List Setting) : Config :=
  settings.foldl set c

/-- One endpoint for each node, in order; the first bad node is the error. -/
def seeds (c : Config) : Except Error (List Endpoint) :=
  EndpointText.endpoints (c.nodes.map fun host => ⟨c.scheme, host, c.port.toNat⟩)

end Config

end NodeBalancer
